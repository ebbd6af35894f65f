import TensorGraph.Config.Settings
import TensorGraph.Op.Text
import TensorGraph.Sparse.Matrix

/-! # The text of variables, nodes and values -/

namespace TensorGraph

def complexText (style : FloatStyle) (f : BinaryFormat) (re im : Float) : String :=
  let style := { style with whole := "" }
  let i := shortestText style f im
  let i := if i.startsWith "-" then i else "+" ++ i
  if re == 0 && !signBit re then (if i.startsWith "+" then (i.drop 1).toString else i) ++ "j"
  else s!"({shortestText style f re}{i}j)"

def complexLiteral (re im : Float) : String := complexText .literal .double re im

def elemText (d : DType) (e : Elem) : String :=
  match d with
  | .bool => boolText e.truthy
  | .float16 | .float32 | .float64 => shortestText .literal d.format e.toFloat
  | .complex64 | .complex128 =>
    let (re, im) := e.toComplex
    complexText .literal d.format re im
  | _ => toString e.toInt

/-- Digits before and after the point. -/
structure PointParts where
  (whole frac : String)

def blanks (n : Nat) : String := .ofList (.replicate n ' ')
def trimZeros (s : String) : String := .ofList (s.toList.reverse.dropWhile (· == '0')).reverse

def positionalParts (f : BinaryFormat) (x : Float) : PointParts :=
  match FloatParts.ofFloat x with
  | .finite s m e =>
    let sign := if s then "-" else ""
    if m == 0 then ⟨sign ++ "0", ""⟩ else
    let (m', e') := (f.round m e).getD (m, e)
    let t := (shortest f m' e').positional
    let (w, r) := match t.splitOn "." with
      | [w, r] => if r.length <= 8 then (w, r) else
          if let [w, r] := (fixedText 8 x.abs).splitOn "." then (w, trimZeros r) else (w, r)
      | _ => (t, "")
    ⟨sign ++ w, r⟩
  | _ => ⟨"", ""⟩

def scientificParts (f : BinaryFormat) (x : Float) : PointParts × Int :=
  match FloatParts.ofFloat x with
  | .finite s m e =>
    let sign := if s then "-" else ""
    if m == 0 then (⟨sign ++ "0", ""⟩, 0) else
    let (m', e') := (f.round m e).getD (m, e)
    let d := shortest f m' e'
    let d := if d.digits.length <= 9 then d else
      let (num, den) := dyadic m e
      (significant 9 num den).trim
    (⟨sign ++ digitsText (d.digits.take 1), digitsText (d.digits.drop 1)⟩, d.exp)
  | _ => (⟨"", ""⟩, 0)

/-- How the floats of one array are written. -/
structure FloatLayout where
  scientific : Bool := false
  padLeft : Nat := 0
  padRight : Nat := 0
  precision : Nat := 0
  expSize : Nat := 2
  plus : Bool := false

def expDigits (e : Int) (n : Nat) : String :=
  let t := toString e.natAbs
  (if e < 0 then "-" else "+") ++ .ofList (.replicate (n - t.length) '0') ++ t

def FloatLayout.ofData (f : BinaryFormat) (plus : Bool) (xs : List Float) : FloatLayout :=
  let finite := xs.filter (·.isFinite)
  let sizes := (finite.filter (· != 0)).map .abs
  let big := sizes.foldl max 0
  let small := sizes.foldl min floatInf
  let scientific := !sizes.isEmpty && (big >= 1e8 || small < 0.0001 || big / small > 1000)
  let withSign p :=
    if plus && !p.whole.startsWith "-" then { p with whole := "+" ++ p.whole } else p
  let widest ls := ls.foldl (fun n s => max n s.length) 0
  let base :=
    if finite.isEmpty then { plus }
    else if scientific then
      let parts := finite.map (scientificParts f)
      let precision := widest (parts.map (·.1.frac))
      let expSize := widest (parts.map fun p => expDigits p.2 2) - 1
      { scientific := true, plus, precision, expSize,
        padLeft := widest (parts.map fun p => (withSign p.1).whole), padRight := expSize + 2 + precision }
    else
      let parts := finite.map fun x => withSign (positionalParts f x)
      { plus, padLeft := widest (parts.map (·.whole)), padRight := widest (parts.map (·.frac)) }
  if finite.length == xs.length then base else
  let negInf := plus || xs.any fun x => x.isInf && x < 0
  let offset := base.padRight + 1
  { base with padLeft := max base.padLeft (max (3 - offset) ((if negInf then 4 else 3) - offset)) }

def FloatLayout.text (l : FloatLayout) (f : BinaryFormat) (x : Float) : String :=
  let signed s := if l.plus && !s.startsWith "-" then "+" ++ s else s
  if !x.isFinite then
    let t := if x.isNaN then signed "nan" else if x < 0 then "-inf" else signed "inf"
    blanks (l.padLeft + l.padRight + 1 - t.length) ++ t
  else if l.scientific then
    let (p, e) := scientificParts f x
    let w := signed p.whole
    blanks (l.padLeft - w.length) ++ w ++ "." ++ p.frac ++
      .ofList (.replicate (l.precision - p.frac.length) '0') ++ "e" ++ expDigits e l.expSize
  else
    let p := positionalParts f x
    let w := signed p.whole
    blanks (l.padLeft - w.length) ++ w ++ "." ++ p.frac ++ blanks (l.padRight - p.frac.length)

def elemTexts (d : DType) (scalarShape : Bool) (es : List Elem) : Elem -> String :=
  match d with
  | .bool => fun e => if e.truthy then if scalarShape then "True" else " True" else "False"
  | .float16 | .float32 | .float64 =>
    let l := FloatLayout.ofData d.format false (es.map Elem.toFloat)
    fun e => l.text d.format e.toFloat
  | .complex64 | .complex128 =>
    let re := FloatLayout.ofData d.format false (es.map (·.toComplex.1))
    let im := FloatLayout.ofData d.format true (es.map (·.toComplex.2))
    fun e =>
      let i := im.text d.format e.toComplex.2
      let t := i.trimAsciiEnd.toString
      re.text d.format e.toComplex.1 ++ t ++ "j" ++ blanks (i.length - t.length)
  | _ =>
    let w := es.foldl (fun n e => max n (toString e.toInt).length) 0
    fun e => let t := toString e.toInt; blanks (w - t.length) ++ t

def extendLine (width : Nat) (indent : String) (acc : String × String) (word : String) : String × String :=
  let (s, line) := acc
  if line.length + word.length > width && line.length > indent.length then
    (s ++ line.trimAsciiEnd.toString ++ "\n", indent ++ word)
  else (s, line ++ word)

def shownPositions (summarize : Bool) (n : Nat) : List (Option Nat) :=
  if summarize && n > 6 then (List.range 3).map some ++ [none] ++ ((List.range 3).map fun i => some (n - 3 + i))
  else (List.range n).map some

def nestedText (summarize : Bool) (sep : String) (word : Nat -> String) :
    List Nat -> Nat -> String -> Nat -> String
  | [], base, _, _ => word base
  | [n], base, indent, width =>
    let elemWidth := width - max sep.trimAsciiEnd.toString.length 1
    let ps := shownPositions summarize n
    let step (acc : (String × String) × Nat) (p : Option Nat) : (String × String) × Nat :=
      let (acc, i) := acc
      let w := if let some k := p then word (base + k) else "..."
      let (s, line) := extendLine elemWidth indent acc w
      ((s, if i + 1 == ps.length then line else line ++ sep), i + 1)
    let ((s, line), _) := ps.foldl step (("", indent), 0)
    "[" ++ ((s ++ line).drop indent.length).toString ++ "]"
  | n :: rest, base, indent, width =>
    let stride := shapeSize rest
    let lineSep := sep.trimAsciiEnd.toString ++ .ofList (.replicate rest.length '\n')
    let one p :=
      indent ++ (match p with
        | some k => nestedText summarize sep word rest (base + k * stride) s!"{indent} " (width - 1)
        | none => "...")
    "[" ++ ((String.intercalate lineSep ((shownPositions summarize n).map one)).drop indent.length).toString ++ "]"

def cornerPositions (summarize : Bool) : List Nat -> List Nat
  | [] => [0]
  | n :: rest =>
    let inner := cornerPositions summarize rest
    let stride := shapeSize rest
    (shownPositions summarize n).flatMap fun
      | some k => inner.map (k * stride + ·)
      | none => []

def bracketText (a : NdArray) (sep lead : String) (suffix : Nat) : String :=
  if a.size == 0 then "[]" else
  let summarize := a.size > 1000
  let fmt := elemTexts a.dtype a.shape.isEmpty ((cornerPositions summarize a.shape).map a.at')
  nestedText summarize sep (fun k => fmt (a.at' k)) a.shape 0 s!" {blanks lead.length}" (75 - suffix)

def NdArray.text (a : NdArray) : String := if a.shape.isEmpty then elemText a.dtype a.item else bracketText a " " "" 0
def shapeText (s : List Nat) : String := tupleText (s.map toString)

def NdArray.expression (a : NdArray) : String :=
  let implied := a.size > 0 && (a.dtype == .bool || a.dtype == .int64 || a.dtype == .float64 || a.dtype == .complex128)
  let suffix := if implied then ")" else ","
  let body := if a.size > 0 || a.shape == [0] then bracketText a ", " "array(" suffix.length
    else "[], shape=" ++ shapeText a.shape
  let s := s!"array({body}{suffix}"
  if implied then s else
  let dt := s!"dtype={a.dtype.name})"
  if ((s.splitOn "\n").getLastD "").length + dt.length + 1 > 75 then s!"{s}\n{blanks 6}{dt}" else s!"{s} {dt}"

def Session.opNames (s : Session) : OpNames where
  composite id := (s.composites.getD id default).name
  fromFunction id := (s.functionOps.getD id default).name
  scan id := s.scanText id
  fromGraph id := s.graphOpText id

def opText (o : Op) : M String := fun _ s => .ok (o.text s.opNames) s

def noGradientTerm (name : String) : M α :=
  failType (name ++ ".grad returned None for a gradient term, this is prohibited. Instead of None,"
    ++ "return zeros_like(input), disconnected_type(), or a NullType variable such as those made with "
    ++ "the grad_undefined or grad_unimplemented helper functions.")

def Op.defaultOutput : Op -> Option Nat
  | .net (.ctc _) => some 0
  | _ => none

def shorten (dots s : String) : String :=
  let cs := s.toList
  if cs.length > 20 then .ofList (cs.take 10) ++ dots ++ .ofList (cs.drop (cs.length - 10))
  else s

def Variable.isBare (v : Variable) : Bool := (v.attrs.lookup "class").isSome

def Variable.className (v : Variable) : String :=
  match v.attrs.lookup "class" with
  | some (.str s) => s
  | _ =>
    let ending := match v.role with
      | .plain => "Variable"
      | .constant _ => "Constant"
      | .shared _ => "SharedVariable"
    let start := match v.role, v.type with
      | _, .tensor .. => "Tensor"
      | _, .scalar _ => "Scalar"
      | .shared _, .sparse .. => "SparseTensor"
      | _, .sparse .. => "Sparse"
      | .shared _, .randomState => "RandomState"
      | .shared _, _ => ""
      | .constant _, .slice => "Slice"
      | .constant _, .cdata _ => "CDataType"
      | _, _ => ""
    start ++ ending

def NdArray.uniqueValue? (a : NdArray) : Option Elem :=
  if a.shape.isEmpty || a.data.isEmpty then none
  else
    let e := a.at' 0
    if a.data.all (· == e) then some e else none

def tensorConstantText (a : NdArray) : String :=
  let body := if let some e := a.uniqueValue? then s!"{shapeText a.shape} of {elemText a.dtype e}"
    else a.text
  "TensorConstant" ++ braced (shorten ".." body)

def classPlaces : Table String :=
  [ ("until", "theano.scan.utils"), ("Validator", "theano.scan.utils"), ("Query", "theano.graph.optdb"),
    ("Canonizer", "theano.tensor.opt"), ("FusionOptimizer", "theano.tensor.opt"),
    ("AddFeatureOptimizer", "theano.compile.mode"), ("PrintCurrentFunctionGraph", "theano.compile.mode") ]

def classPath (c : String) : String := if let some place := classPlaces.lookup c then s!"{place}.{c}" else c

mutual

def Session.valueText (s : Session) : Nat -> Bool -> Value -> String
  | 0, _, _ => "..."
  | fuel + 1, q, v =>
    let items c := match s.cells.getD c.idx default with
      | .seq xs => xs.toList
      | .map xs => xs.toList.map (·.1)
    let all xs := xs.map (s.valueText fuel true)
    match v with
    | .null => "None"
    | .bool b => boolText b
    | .int i => toString i
    | .float x => floatLiteral x
    | .complex re im => complexLiteral re im
    | .str t => if q then quoted t else t
    | .bytes b => "b" ++ quoted (.ofList (b.map .ofNat))
    | .tuple xs => tupleText (all xs)
    | .list c => s!"[{commaList (all (items c))}]"
    | .dict c =>
      match s.cells.getD c.idx default with
      | .map xs => braced (commaList (xs.toList.map fun (k, x) =>
          s.valueText fuel true k ++ ": " ++ s.valueText fuel true x))
      | .seq _ => braced ""
    | .set c => if (items c).isEmpty then "set()" else braced (commaList (all (items c)))
    | .orderedSet c =>
      if (items c).isEmpty then "OrderedSet()"
      else s!"OrderedSet([{commaList (all (items c))}])"
    | .slice a b c => s!"slice({commaList (all [a, b, c])})"
    | .ellipsis => "Ellipsis"
    | .array a => if q then a.expression else a.text
    | .objects shape xs =>
      if shape.isEmpty then commaList (all xs)
      else "[" ++ (.intercalate " " (all xs)) ++ "]"
    | .number d e => elemText d e
    | .sparse m => if !q then .intercalate "\n" (m.entries.map fun (i, j, e) =>
        "  " ++ shapeText [i, j] ++ "\t" ++ elemText m.dtype e) else s!"<{m.rows}x{m.cols}" ++ " sparse matrix of type '<class 'numpy."
        ++ m.dtype.name ++ "'>'\n\twith " ++ toString m.data.size ++ " stored elements in "
        ++ (match m.format with
            | .csr => "Compressed Sparse Row"
            | .csc => "Compressed Sparse Column"
            | .bsr => "Block Sparse Row"
            | .coo => "COOrdinate") ++ " format>"
    | .dtype n => if q then s!"dtype('{n}')" else n
    | .var v => s.varText fuel v
    | .node n => s.nodeText fuel n
    | .op o => match q, o with
      | false, _ | _, .symbolic .. => o.text s.opNames
      | _, _ => s!"<{o.classPath} object>"
    | .type (.scalar d) => if q then s!"Scalar({d.name})" else d.name
    | .type t => t.text
    | .graph g =>
      "FunctionGraph(" ++ commaList ((s.graphs.getD g.idx default).outputs.map (s.varText fuel)) ++ ")"
    | .function _ => "<Function object>"
    | .feature f =>
      s!"<{classPath (s.features.getD f.idx default).className} object>"
    | .pass p =>
      match q, (s.passes.getD p.idx default).body with
      | _, .seq ps _ => s!"SeqOpt([{commaList (all (ps.map .pass))}])"
      | true, .pattern .. | false, _ => s.shortPassText p
      | _, _ => "<" ++ (classPlaces.lookup (s.passClass p)).getD "theano.graph.opt" ++ "." ++ s.passClass p ++ " object>"
    | .database _ => "<DB object>"
    | .record r =>
      if q && (s.records.getD r.idx default).cls == "Query" then "<theano.graph.optdb.Query object>" else s.recordText fuel r
    | .tag _ => "scratchpad"
    | .lambda .. => "<function <lambda>>"
    | .api p => "<function " ++ ((p.splitOn ".").getLastD "") ++ ">"
    | .method _ n => s!"<bound method {n}>"
    | .cls c => s!"<class '{c}'>"

def Session.varText (s : Session) : Nat -> VarId -> String
  | 0, _ => "..."
  | fuel + 1, v =>
    let i := s.arena.var v
    match i.role, if i.isBare then .generic else i.type with
    | .constant (.array a), .tensor .. => tensorConstantText a
    | .constant (.sparse m), .sparse .. => "SparseConstant" ++
        braced (m.format.name ++ "," ++ m.dtype.name ++ ",shape=" ++ shapeText [m.rows, m.cols] ++ ",nnz=" ++
          toString m.data.size)
    | .constant (.slice a b c), .slice => "SliceConstant" ++
        braced (commaList ([a, b, c].map (s.valueText fuel false)))
    | .plain, .sparse f d => "SparseVariable" ++ braced s!"{f.name},{d.name}"
    | .shared b, .randomState =>
      "RandomStateSharedVariable(<" ++ s.valueText fuel true (s.boxes.getD b.idx default).value ++ ">)"
    | _, _ =>
    match i.name with
    | some n => n
    | none =>
      match i.role with
      | .constant d => "Constant" ++ braced (shorten "..." (s.valueText fuel false d))
      | _ =>
        match i.owner with
        | none => s!"<{i.type.text}>"
        | some n =>
          let o := s.arena.op n
          o.text s.opNames ++ "." ++
            if o.defaultOutput == some i.index then "out" else toString i.index

def Session.recordText (s : Session) : Nat -> RecordId -> String
  | 0, _ => "..."
  | fuel + 1, r =>
    let x := s.records.getD r.idx default
    let part n := s.valueText fuel false ((x.fields.lookup n).getD .null)
    match x.fields.lookup "text", x.cls with
    | some v, _ => s.valueText fuel false v
    | none, "In" | none, "SymbolicInput" =>
      let update := if ((x.fields.lookup "update").getD .null).isNull then "" else " -> " ++ part "update"
      "In(" ++ part "variable" ++ update ++ ")"
    | none, "SymbolicOutput" => "Out(" ++ part "variable" ++ "," ++ part "borrow" ++ ")"
    | none, "Mode" | none, "MonitorMode" | none, "NanGuardMode" =>
      x.cls ++ "(linker = " ++ part "provided_linker" ++ ", optimizer = " ++ part "provided_optimizer" ++ ")"
    | none, "Query" =>
      let cutoff := if let some v := x.fields.lookup "position_cutoff" then fixedText 6 ((v.float?).getD 0) else ""
      "Query" ++ braced ("inc=" ++ part "include" ++ ",ex=" ++ part "exclude" ++ ",require=" ++ part "require" ++ ",subquery="
        ++ part "subquery" ++ ",position_cutoff=" ++ cutoff ++ ",extra_opts=" ++ part "extra_optimizations")
    | none, "FreeVariable" | none, "BoundVariable" | none, "OrVariable" | none, "NotVariable" =>
      x.cls ++ "(" ++ commaList ((x.fields.filter fun (k, _) => k != "asked").map fun (k, _) => s!"{k}={part k}") ++ ")"
    | none, "Container" =>
      match x.fields.lookup "box" with
      | some (.int b) => "<" ++ s.valueText fuel false (s.boxes.getD b.toNat default).value ++ ">"
      | _ => "<>"
    | none, "Scratchpad" => "scratchpad" ++ braced (commaList (x.fields.map fun (k, v) => quoted k ++ ": " ++ s.valueText fuel true v))
    | none, "frozendict" => "<frozendict " ++ part "items" ++ ">"
    | none, _ => s!"<{classPath x.cls} object>"

def Session.nodeText (s : Session) : Nat -> NodeId -> String
  | 0, _ => "..."
  | fuel + 1, n =>
    let nd := s.arena.node n
    nd.op.text s.opNames ++ "(" ++ commaList (nd.inputs.toList.map (s.varText fuel)) ++ ")"

end

def varText (v : VarId) : M String := fun _ s => .ok (s.varText 60 v) s
def nodeText (n : NodeId) : M String := fun _ s => .ok (s.nodeText 60 n) s
def textOf (v : Value) : M String := fun _ s => .ok (s.valueText 60 false v) s
def reprOf (v : Value) : M String := fun _ s => .ok (s.valueText 60 true v) s
def typeText (v : VarId) : M String := do return (<- typeOf v).text

/-! ## Graphs on one line -/

namespace GraphText

/-- What is fixed while a graph is printed. -/
structure Frame where
  stops : Std.HashSet VarId
  multi : Nodes

mutual

def describe (f : Frame) : Nat -> VarId -> Nodes -> M (String × Nodes)
  | 0, _, done => pure ("", done)
  | fuel + 1, v, done => do
    if f.stops.contains v then return (<- varText v, done)
    let some n <- ownerOf v | pure (<- varText v, done)
    let outs <- outsOf n
    let index := if outs.length == 1 then "" else s!"::{outs.findIdx (· == v)}"
    let number := toString (f.multi.findIdx (· == n) + 1)
    if done.contains n then return (s!"*{number}{index}", done)
    let (args, done) <- describeAll f fuel (<- insOf n) (n :: done)
    let s := s!"{<- opText (<- opOf n)}({commaList args})"
    pure (if f.multi.contains n then s!"*{number} -> {s}" else s, done)

def describeAll (f : Frame) : Nat -> Vars -> Nodes -> M (List String × Nodes)
  | 0, _, done | _, [], done => pure ([], done)
  | fuel + 1, v :: vs, done => do
    let (s, done) <- describe f fuel v done
    let (ss, done) <- describeAll f fuel vs done
    pure (s :: ss, done)

end

end GraphText

def graphTexts (ins outs : Vars) : M (List String) := do
  let a <- getArena
  let known := .ofList ins
  let nodes := (a.appliesBetween known outs).eraseDups
  let note st n :=
    let (seen, multi) := st
    if seen.contains n then (seen, if multi.contains n then multi else multi ++ [n]) else (n :: seen, multi)
  let st := (outs.filterMap a.owner).foldl note ([], [])
  let reads := nodes.flatMap fun n => (a.inputs n).filterMap fun v => if known.contains v then none else a.owner v
  let (_, multi) := reads.foldl note st
  let (ss, _) <- GraphText.describeAll ⟨known, multi⟩ (2 * a.weight + outs.length + 2) outs []
  pure ss

def notVariable (v : Value) : M α := do
  failType s!"The 'inputs' argument to Apply must contain Variable instances, not {<- textOf v}"

def manyOutputs (n : NodeId) : M α := do
  failWith .value ["'It is ambiguous which output of a multi-output Op has to be fetched.'", <- nodeText n]

def nodeTextFrom (ins : Vars) (n : NodeId) : M String := do
  return s!"{<- opText (<- opOf n)}({commaList (<- graphTexts ins (<- insOf n))})"

def functionGraphText (g : GraphId) : M String := do
  let x <- graph g
  return s!"FunctionGraph({commaList (<- graphTexts x.inputs x.outputs)})"

/-! ## Names of classes -/

def Ty.className : Ty -> String
  | .tensor .. => "TensorType" | .scalar _ => "Scalar" | .sparse .. => "SparseType"
  | .generic => "Generic" | .noneType => "NoneTypeT" | .slice => "SliceType"
  | .randomState => "RandomStateType" | .disconnected => "DisconnectedType" | .null _ => "NullType"
  | .cdata _ => "CDataType"
  | .plain _ => "TType"

def Ty.classPath (t : Ty) : String :=
  (match t with
    | .tensor .. => "theano.tensor.type."
    | .scalar _ => "theano.scalar.basic."
    | .sparse .. => "theano.sparse.type."
    | .generic | .cdata _ => "theano.graph.type."
    | .noneType | .slice => "theano.tensor.type_other."
    | .randomState => "theano.tensor.random.type."
    | .disconnected => "theano.gradient."
    | .null _ => "theano.graph.null_type."
    | .plain _ => "") ++ t.className

def Variable.classPath (v : Variable) : String :=
  let c := v.className
  (match c with
    | "TensorVariable" | "TensorConstant" => "theano.tensor.var."
    | "TensorSharedVariable" => "theano.tensor.sharedvar."
    | "ScalarSharedVariable" => if v.type.isScalar then "theano.scalar.sharedvar." else "theano.tensor.sharedvar."
    | "ScalarVariable" | "ScalarConstant" => "theano.scalar.basic."
    | "SparseVariable" | "SparseConstant" => "theano.sparse.basic."
    | "SparseTensorSharedVariable" => "theano.sparse.sharedvar."
    | "SliceConstant" => "theano.tensor.type_other."
    | "RandomStateSharedVariable" => "theano.tensor.random.var."
    | "SharedVariable" => "theano.compile.sharedvalue."
    | _ => "theano.graph.basic.") ++ c

def DType.className (d : DType) : String := if d == .bool then "bool_" else d.name

def Session.className (s : Session) : Value -> String
  | .null => "NoneType" | .bool _ => "bool" | .int _ => "int" | .float _ => "float"
  | .complex .. => "complex" | .str _ => "str" | .bytes _ => "bytes" | .tuple _ => "tuple"
  | .list _ => "list" | .dict _ => "dict" | .set _ => "set" | .orderedSet _ => "OrderedSet"
  | .slice .. => "slice" | .ellipsis => "ellipsis" | .array _ | .objects .. => "ndarray"
  | .number d _ => d.className
  | .sparse m => m.format.name ++ "_matrix"
  | .dtype n => s!"dtype[{n}]"
  | .var v => (s.arena.var v).className
  | .node _ => "Apply"
  | .op o => o.className
  | .type t => t.className
  | .graph _ => "FunctionGraph"
  | .function _ => "Function"
  | .feature f => (s.features.getD f.idx default).className
  | .pass p => s.passClass p
  | .database d => s.databaseClass d
  | .record r => (s.records.getD r.idx default).cls
  | .tag (.var _) => "ValidatingScratchpad"
  | .tag (.node _) => "Scratchpad"
  | .lambda .. | .api _ => "function"
  | .method (.tuple _) "depends" => "builtin_function_or_method"
  | .method (.tuple _) _ => "function"
  | .method .. => "method"
  | .cls _ => "type"

def Session.classPath (s : Session) (v : Value) : String :=
  match v with
  | .array _ | .objects .. => "numpy.ndarray"
  | .number d _ => "numpy." ++ d.className
  | .sparse m => s!"scipy.sparse._{m.format.name}.{m.format.name}_matrix"
  | .dtype n => s!"numpy.dtype[{n}]"
  | .orderedSet _ => "theano.misc.ordered_set.OrderedSet"
  | .var v => (s.arena.var v).classPath
  | .node _ => "theano.graph.basic.Apply"
  | .type t => t.classPath
  | .graph _ => "theano.graph.fg.FunctionGraph"
  | .function _ => "theano.compile.function.types.Function"
  | .op o => o.classPath
  | v => s.className v

def classNameOf (v : Value) : M String := fun _ s => .ok (s.className v) s
def classTextOf (v : Value) : M String := fun _ s => .ok s!"<class '{s.classPath v}'>" s

/-! ## Graphs as indented text -/

def lettersOf (n : Nat) : String :=
  let rec go : Nat -> Nat -> List Char -> List Char
    | 0, _, acc => acc
    | fuel + 1, k, acc => if k == 0 then acc else go fuel (k / 26) (.ofNat ('A'.toNat + k % 26) :: acc)
  if n == 0 then "A" else .ofList (go (n + 1) n [])

/-- How names are made: capital letters, numbers, or none. -/
inductive ItemNames
  | letters | numbers | none

/-- Choices for a listing. -/
structure ListingStyle where
  depth : Int := -1
  types : Bool := false
  names : ItemNames := .letters
  stopOnName : Bool := false
  destroyMaps : Bool := false
  viewMaps : Bool := false

/-- What a listing needs to know about a result: the place of each node in an order, the times that
were measured, and the stored values. -/
structure ListingFacts where
  order : Option (Std.HashMap NodeId Nat) := none
  times : List (NodeId × String) := []
  stored : Option (VarId -> Option String) := none

/-- A loop's inner graph: its outputs, and the outer operand behind each inner input. -/
abbrev InnerGraph := Vars × VarPairs

/-- The state of a listing. -/
structure Listing where
  lines : Array String := #[]
  printed : Std.HashSet Item := ∅
  names : Std.HashMap Item String := ∅
  loops : Array VarId := #[]

variable (l : Listing)

namespace Listing

def name (style : ItemNames) (x : Item) : Listing × String :=
  let s := match l.names[x]? with
    | some s => s
    | none => match style with
      | .letters => s!"[id {lettersOf l.names.size}]"
      | .numbers => s!"[id {l.names.size}]"
      | .none => ""
  ({ l with names := l.names.insert x s, printed := l.printed.insert x }, s)

def line (s : String) : Listing := { l with lines := l.lines.push s }

end Listing

def positionMapText (m : List (Nat × List Nat)) : String :=
  braced (commaList (m.map fun (o, is) => s!"{o}: [{commaList (is.map toString)}]"))

def noteLoop (v : VarId) : M Listing := do
  let some (.scan .., _) <- made? v | pure l
  return { l with loops := l.loops.push v }

def listVar (style : ListingStyle) (facts : ListingFacts) (outer : VarPairs) :
    Nat -> Int -> String -> String -> VarId -> Listing -> M Listing
  | 0, _, _, _, _, _ => outOfFuel
  | fuel + 1, depth, lead, childLead, v, l => do
    if depth == 0 then return l
    let t <- if style.types then do pure (" <" ++ (<- typeOf v).text ++ ">") else pure ""
    let stored x := if let some f := facts.stored then " " ++ (f x).getD "" else ""
    match <- ownerOf v with
    | some n =>
      let o <- opOf n
      let outs <- outsOf n
      let ins <- insOf n
      let shown wanted letter m := if !wanted then "" else if m.isEmpty then braced "" else s!"{letter}={positionMapText m}"
      let place <- match facts.order with
        | none => pure ""
        | some m =>
          if m.isEmpty then pure "" else
          if let some k := m[n]? then pure (toString k) else badValue
      let old := l.printed.contains (.node n)
      let (l, id) := l.name style.names (.node n)
      let destroys <- if let .scan k _ := o then do pure ((<- get).loops.getD k default).destroys
        else pure o.destroyMap
      let index := if outs.length == 1 then "" else s!".{outs.findIdx (· == v)}"
      let name := (<- nameOf v).getD ""
      let time := if let some s := facts.times.lookup n then " --> " ++ s else ""
      let l := l.line (lead ++ (<- opText o) ++ index ++ s!" {id}{t} '{name}' "
        ++ shown style.destroyMaps "d" destroys ++ " " ++ shown style.viewMaps "v" o.viewMap ++ " "
        ++ place ++ stored (outs.headD default) ++ time)
      if old || (style.stopOnName && (<- nameOf v).isSome) then return l
      let last := ins.length - 1
      ins.zipIdx.foldlM (fun l (x, k) => do
        listVar style facts outer fuel (depth - 1) s!"{childLead} |"
          (childLead ++ (if k == last then "  " else " |")) x (<- noteLoop l x)) l
    | none =>
      match outer.lookup v with
      | some w =>
        let (l, id) := l.name style.names (.var v)
        let (l, outerId) := l.name style.names (((<- ownerOf w).map .node).getD (.var w))
        return l.line s!"{lead}{<- varText v} {id}{t} -> {outerId}"
      | none =>
        let (l, id) := l.name style.names (.var v)
        return l.line s!"{lead}{<- varText v} {id}{t}{stored v}"

def listLoops (style : ListingStyle) (inner : VarId -> M InnerGraph) (fuel : Nat) :
    Nat -> Nat -> Listing -> M Listing
  | 0, _, _ => outOfFuel
  | rounds + 1, k, l => do
    let some v := l.loops[k]? | pure l
    let (outs, outer) <- inner v
    let l := l.line ""
    let l <- listVar style {} outer fuel style.depth "" "" v l
    let l <- outs.foldlM (fun l x => do listVar style {} outer fuel style.depth " >" " >" x (<- noteLoop l x)) l
    listLoops style inner fuel rounds (k + 1) l

def listGraphs (style : ListingStyle) (inner : VarId -> M InnerGraph) (roots : List (VarId × ListingFacts))
    (start : Listing := {}) : M Listing := do
  let fuel := (<- getArena).nodes.size + 2
  let l <- roots.foldlM (fun l (v, facts) => do
    listVar style facts [] fuel style.depth "" "" v (<- noteLoop l v)) start
  if l.loops.isEmpty then return l
  listLoops style inner fuel 1000 0 ((l.line "").line "Inner graphs of the scan ops:")

def Listing.text : String := .join (l.lines.toList.map (· ++ "\n"))

end TensorGraph
