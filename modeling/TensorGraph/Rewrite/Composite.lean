import TensorGraph.Rewrite.Engine

/-! # Making operators of scalar expressions -/

namespace TensorGraph

/-- How the result of an operator is written. -/
inductive Printer
  | operator (symbol : String)
  | function (name : String)
  | bars | ignore | shuffle | part | vector | plain

namespace Printer

def signOf? : ScalarKind -> Option String
  | .add => some "+" | .mul => some "*" | .sub | .neg => some "-" | .trueDiv => some "/" | .intDiv => some "//"
  | .pow => some "**"
  | _ => none

def hasInplaceForm : ScalarKind -> Bool
  | .isnan | .isinf | .switch | .erfinv | .erfcinv | .gammainc | .gammaincc | .gammau | .gammal | .real | .imag | .angle
  | .complex | .complexFromPolar | .clip | .cast _ | .identity | .composite _ => false
  | _ => true

def named (k : ScalarKind) (name mark : String) : Printer :=
  if let .second := k then .function s!"fill{mark}"
  else if let some sign := signOf? k then .operator (sign ++ mark) else .function (name ++ mark)

def ofOp : Op -> Printer
  | .scalar s =>
    ((List.lookup s [(.add, "+"), (.mul, "*"), (.sub, "-"), (.neg, "-"), (.trueDiv, "/"), (.intDiv, "//"), (.pow, "**"),
      (.mod, "%")]).map .operator).getD .plain
  | .elemwise s [] _ =>
    match tensorOps.find? fun (_, t) => t == s with
    | some (name, _) => if let .abs := s.kind then .bars else named s.kind name ""
    | none =>
      match s.kind with
      | .cast d => if s == .cast d then .function d.name else .plain
      | .identity => if s == .identity then .ignore else .plain
      | .sigmoid => .function "sigmoid"
      | .ultraFastSigmoid => .function "ultra_fast_sigmoid"
      | .softplus => .function "softplus"
      | _ => .plain
  | .elemwise s [(0, 0)] _ =>
    if s.rule != some (.transfer [.input 0]) || !hasInplaceForm s.kind then .plain
    else match tensorOps.find? fun (_, t) => t.kind == s.kind with
      | some (name, _) => named s.kind name "="
      | none => .plain
  | .dimShuffle .. => .shuffle
  | .reduce r => if r == { cls := .sum, scalar := .add } then .function "sum" else .plain
  | .alloc => .function "alloc"
  | .join _ => .function "join"
  | .dot => .operator "\\dot"
  | .blas (.gemm inplace) => .function (if inplace then "gemm_inplace" else "gemm_no_inplace")
  | .subtensor _ => .part
  | .makeVector _ => .vector
  | _ => .plain

def greek : Table String :=
  [("alpha", "\\alpha"), ("beta", "\\beta"), ("gamma", "\\gamma"), ("delta", "\\delta"), ("epsilon", "\\epsilon")]

abbrev Memo := Std.HashMap VarId String

def placeText : Place -> String
  | .new => "x"
  | .dim i => toString i

def indexTexts : List IndexEntry -> List String -> List String
  | [], _ => []
  | .pos _ :: r, t :: ts => t :: indexTexts r ts
  | .pos _ :: r, [] => indexTexts r []
  | .slice a b c :: r, ts =>
    let part d := if let some d := d then d.name else ""
    (part a ++ ":" ++ part b ++ (if let some d := c then ":" ++ d.name else "")) :: indexTexts r ts

mutual

def write : Nat -> VarId -> Memo -> M (String × Memo)
  | 0, _, _ => outOfFuel
  | fuel + 1, v, memo => do
    if let some s := memo[v]? then return (s, memo)
    let keep r := (r.1, r.2.insert v r.1)
    let some n <- ownerOf v |
      if let some g := (<- nameOf v).bind fun n => greek.lookup n then return keep (g, memo) else return keep (<- varText v, memo)
    let o <- opOf n
    let ins <- insOf n
    let first := ins.headD default
    match ofOp o, o with
    | .operator sign, _ =>
      let (ts, memo) <- writeAll fuel ins memo
      let s := match ts with
        | [t] => sign ++ t
        | ts => .intercalate s!" {sign} " ts
      return keep (s!"({s})", memo)
    | .bars, _ =>
      let (t, memo) <- write fuel first memo
      return keep (s!"|{t}|", memo)
    | .ignore, _ => do return keep (<- write fuel first memo)
    | .shuffle, .dimShuffle _ order _ =>
      let (t, memo) <- write fuel first memo
      let order := order.dropWhile (· == .new)
      let same := (List.range (<- ndimOf first)).map .dim
      let s := if order == same then t else if order == same.reverse then t ++ ".T"
        else s!"DimShuffle{braced (commaList (order.map placeText))}({t})"
      pure (s, memo)
    | .part, .subtensor idx =>
      let (ts, memo) <- writeAll fuel (ins.drop 1).reverse memo
      let (t, memo) <- write fuel first memo
      return (t ++ "[" ++ commaList (indexTexts idx ts) ++ "]", memo)
    | p, _ =>
      let (ts, memo) <- writeAll fuel ins memo
      match p with
      | .vector => pure ("[" ++ commaList ts ++ "]", memo)
      | .function name => return keep (name ++ "(" ++ commaList ts ++ ")", memo)
      | _ => return keep ((<- opText o) ++ "(" ++ commaList ts ++ ")", memo)

def writeAll : Nat -> Vars -> Memo -> M (List String × Memo)
  | 0, _, _ => outOfFuel
  | _, [], memo => pure ([], memo)
  | fuel + 1, v :: vs, memo => do
    let (s, memo) <- write fuel v memo
    let (ss, memo) <- writeAll fuel vs memo
    pure (s :: ss, memo)

end

end Printer

def prettyText (v : VarId) : M String := do return (<- Printer.write 10000 v ∅).1

def compositeForm (g : GraphId) : M String := do
  let x <- graph g
  let mut names :=
    (x.outputs.zipIdx.map fun (v, i) => (v, s!"o{i}")) ++ x.inputs.zipIdx.map fun (v, i) => (v, s!"i{i}")
  let mut text := s!"{x.inputs.length},{x.outputs.length};"
  for v in x.inputs ++ x.outputs do text := s!"{text}{<- typeText v},"
  let mut k := 0
  for n in <- graphToposort g do
    let mut ins := []
    for v in <- insOf n do
      if let some s := names.lookup v then ins := ins ++ [s]
      else ins := ins ++ [(<- typeText v) ++ ":" ++ (<- reprOf ((<- constant? v).getD .null))]
    let mut outs := []
    for v in <- outsOf n do
      match names.lookup v with
      | some s => outs := outs ++ [s]
      | none =>
        k := k + 1
        let s := s!"{<- typeText v} t{k}"
        names := (v, s!"t{k}") :: names
        outs := outs ++ [s]
    let kind := if let .scalar s := <- opOf n then toString (repr s.kind) else ""
    text := s!"{text}{commaList outs}={kind}({commaList ins});"
  pure text

def makeComposite (ins outs : Vars) : M ScalarOp := do
  for i in ins do check (!outs.contains i)
  let inner <- if outs.length > 1 then pure none
    else
      let ops <- outs.mapM fun v => do
        let some (o, args) <- made? v | noAttr
        pure (o, args)
      match ops with
      | [(.scalar s, args)] =>
        match s.kind with
        | .composite id => pure (some (<- compositeOf id, args))
        | _ => pure none
      | _ => pure none
  let (ins, outs) <- match inner with
    | none => do
      let m <- cloneGraph ins outs true true
      pure (ins.map fun v => m.vars.getD v v, outs.map fun v => m.vars.getD v v)
    | some (c, args) => do
      let m <- cloneGraph ins args true false
      let start := { vars := (c.inputs.zip args).foldl (fun t (i, a) => t.insert i (m.vars.getD a a)) ∅ }
      let m2 <- cloneGraph c.inputs c.outputs false false start
      pure (ins.map fun v => m.vars.getD v v, c.outputs.map fun v => m2.vars.getD v v)
  let g <- makeGraph ins outs
  let _ <- optimize (<- newPass { body := .merge }) g
  for n in (<- graph g).nodes.toList do
    let .scalar _ <- opOf n | failValue "The fgraph to Composite must be exclusively composed of ScalarOp instances."
    pure ()
  let key <- compositeForm g
  match (<- get).composites.findIdx? (·.key == key) with
  | some id => return { kind := .composite id }
  | none =>
    let x <- graph g
    for (v, i) in x.inputs.zipIdx do setName v (some s!"i{i}")
    for (v, i) in x.outputs.zipIdx do setName v (some s!"o{i}")
    let name := "Composite" ++ braced (commaList (<- x.outputs.mapM prettyText))
    let id := (<- get).composites.size
    modify fun s => { s with composites := s.composites.push { inputs := ins, outputs := outs, graph := g, key, name } }
    return { kind := .composite id }

end TensorGraph
