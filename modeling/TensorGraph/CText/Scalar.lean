import TensorGraph.Graph.Change
import TensorGraph.Scalar.Node

/-! # Generated C text -/

/-! ## Loops over arrays -/

namespace TensorGraph.CText

def readMark (cs : List Char) : Option (String × List Char) :=
  match cs with
  | '(' :: rest =>
    let name := rest.takeWhile (· != ')')
    match rest.drop name.length with
    | ')' :: 's' :: after | ')' :: 'i' :: after | ')' :: 'd' :: after => some (.ofList name, after)
    | _ => none
  | _ => none

def fillChars (vars : List (String × String)) : Nat -> List Char -> String -> String
  | 0, _, acc | _, [], acc => acc
  | fuel + 1, '%' :: '%' :: rest, acc => fillChars vars fuel rest (acc.push '%')
  | fuel + 1, '%' :: rest, acc =>
    if let some (name, after) := readMark rest then fillChars vars fuel after (acc ++ (vars.lookup name).getD "")
    else fillChars vars fuel rest (acc.push '%')
  | fuel + 1, c :: rest, acc => fillChars vars fuel rest (acc.push c)

def fill (template : String) (vars : List (String × String)) : String :=
  let cs := template.toList
  fillChars vars cs.length cs ""

/-- A text with a margin before all its lines but the first. -/
def indented (margin : Nat) (text : String) : String := text.replace "\n" ("\n".pushn ' ' margin)

def commonStart [BEq α] : List α -> List α -> List α
  | a :: l, b :: m => if a == b then a :: commonStart l m else []
  | _, _ => []

def dedent (text : String) : String :=
  let isBlank c := c == ' ' || c == '\t'
  let lines := (text.splitOn "\n").map String.toList
  let lines := lines.map fun l => if l.all isBlank then [] else l
  let margin := match ((lines.filter (!·.isEmpty)).map fun l => l.takeWhile isBlank) with
    | [] => []
    | m :: ms => ms.foldl commonStart m
  .intercalate "\n" (lines.map fun l => .ofList (l.drop margin.length))

/-- An array that loops walk over: its name, the type of its elements, and the dimension of each loop. -/
structure Walk where
  (name ctype : String)
  order : List (Option Nat)

namespace Walk

variable (w : Walk)

def dimText (d : Option Nat) : String := (d.map toString).getD "x"
def count (d : Nat) : String := s!"{w.name}_n{d}"

private def put (t : String) (d : Option Nat) (j : Nat) (more : List (String × String) := []) : String :=
  fill t ([("v", w.name), ("t", w.ctype), ("d", dimText d), ("j", toString j)] ++ more)

def declare : String :=
  w.put "\n        %(t)s* %(v)s_iter;\n        " none 0 ++ .join (w.order.zipIdx.map fun (d, j) =>
    w.put ("\n                " ++ (if d.isSome then "npy_intp %(v)s_n%(d)s;
                ssize_t %(v)s_stride%(d)s;
                " else "") ++ "int %(v)s_jump%(d)s_%(j)s;\n                ") d j)

def measure (fail : String) : String :=
  let enough := match (w.order.filterMap id).max? with
    | some m => fill (indented 8 r#"
    if (PyArray_NDIM(%(v)s) < %(m)s) {
        PyErr_SetString(PyExc_ValueError, "Not enough dimensions on input.");
        %(fail)s
    }
    "#) [("v", w.name), ("m", toString (m + 1)), ("fail", fail)]
    | none => ""
  enough ++ (w.order.zipIdx.reverse.foldl (fun (text, adjust) (d, j) => match d with
    | some k => (text ++ w.put (indented 16 "
%(v)s_n%(d)s = PyArray_DIMS(%(v)s)[%(d)s];
%(v)s_stride%(d)s = PyArray_STRIDES(%(v)s)[%(d)s] / sizeof(%(t)s);
%(v)s_jump%(d)s_%(j)s = (%(v)s_stride%(d)s) - (%(a)s);
") d j [("a", adjust)], w.count k ++ s!"*{w.name}_stride{k}")
    | none => (text ++ w.put "\n                %(v)s_jump%(d)s_%(j)s = -(%(a)s);\n                " d j [("a", adjust)],
      "0")) ("", "0")).1

def begin_ : String := w.put "%(v)s_iter = (%(t)s*)(PyArray_DATA(%(v)s));\n" none 0

end Walk

variable (ws : List Walk)

def column (level : Nat) : List (Walk × Option Nat) := ws.map fun w => (w, (w.order[level]?).join)
def firstCount (ws : List (Walk × Option Nat)) : String := (ws.findSome? fun (w, d) => d.map w.count).getD "1"

def checks (fail : String) : String :=
  .join (ws.map (·.measure fail)) ++ .join ((List.range ((ws.head?.map (·.order.length)).getD 0)).map fun level =>
    match (column ws level).zipIdx.filterMap fun ((w, d), j) => d.map fun k => (j, k, w.count k) with
    | (j0, k0, n0) :: rest => .join (rest.map fun (j, k, n) => fill (indented 12 r#"
if (%(n0)s != %(n)s)
{
    PyErr_Format(PyExc_ValueError, "Input dimension mis-match. (input[%%i].shape[%%i] = %%lld, input[%%i].shape[%%i] = %%lld)",
       %(j0)s,
       %(k0)s,
       (long long int) %(n0)s,
       %(j)s,
       %(k)s,
       (long long int) %(n)s
    );
    %(fail)s
}
"#) [("n0", n0), ("n", n), ("j0", toString j0), ("k0", toString k0), ("j", toString j), ("k", toString k),
              ("fail", fail)])
    | [] => "")

def allocate (out ctype fail fortran : String) : String :=
  let levels := (ws.head?.map (·.order.length)).getD 0
  let dims := .join ((List.range levels).map fun i =>
    "dims[" ++ toString i ++ "] = " ++ firstCount (column ws i) ++ ";\n")
  fill (indented 4 r"
{
    npy_intp dims[%(nd)s];
    //npy_intp* dims = (npy_intp*)malloc(%(nd)s * sizeof(npy_intp));
    %(dims)s
    if (!%(o)s) {
        %(o)s = (PyArrayObject*)PyArray_EMPTY(%(nd)s, dims,
                                                %(type)s,
                                                %(fortran)s);
    }
    else {
        PyArray_Dims new_dims;
        new_dims.len = %(nd)s;
        new_dims.ptr = dims;
        PyObject* success = PyArray_Resize(%(o)s, &new_dims, 0, NPY_CORDER);
        if (!success) {
            // If we can't resize the ndarray we have we can allocate a new one.
            PyErr_Clear();
            Py_XDECREF(%(o)s);
            %(o)s = (PyArrayObject*)PyArray_EMPTY(%(nd)s, dims, %(type)s, 0);
        } else {
            Py_DECREF(success);
        }
    }
    if (!%(o)s) {
        %(fail)s
    }
}
") [("nd", toString levels), ("dims", dims), ("o", out), ("fail", fail), ("fortran", fortran),
      ("type", ctype.toUpper.replace "THEANO_COMPLEX" "NPY_COMPLEX")]

def loopOver (code : String) : String :=
  let ps := column ws 0
  let update := .join (ps.map fun (w, d) => w.put "%(t)s &%(v)s_i = * ( %(v)s_iter + ITER_0 * %(v)s_jump%(d)s_0 );\n" d 0)
  "\x7b" ++ fill (indented 8 r"
%(before)s
for (int ITER_0 = 0; ITER_0<%(n)s; ITER_0++) {
    %(update)s
    %(code)s
}
") [("before", .join (ws.map (·.begin_))), ("n", firstCount ps.reverse), ("code", code), ("update", update)] ++ "\x7d"

/-! ## Scalar operators as C text -/

def ultraFastTemplate : String :=
  r"
        %(dtype)s x = 0.5 * %(x)s;
   // The if is a tanh approximate.
   if(x>=0) {
        %(z)s = (x<1.7 ? (1.5*x/(1+x)) :
                         (x<3 ? (0.935409070603099 + 0.0458812946797165*(x-1.7)):
                         0.99505475368673));
    } else {
        %(dtype)s xx = -x;
        %(z)s = -(xx<1.7 ? (1.5*xx/(1+xx)) :
                           (xx<3 ? (0.935409070603099 + 0.0458812946797165*(xx-1.7)):
                                   0.99505475368673));
    }

        //%(z)s = 0.5*(ultrafasttanh(0.5*x)+1.);
        %(z)s = 0.5*(%(z)s+1.);
        "

def softplusTemplate : String :=
  indented 16 r"
%(z)s = (
    %(x)s < %(low)s.0%(f)s ? 0.0 :
    %(x)s < -37.0%(f)s ? exp(%(x)s) :
    %(x)s < 18.0%(f)s ? log1p(exp(%(x)s)) :
    %(x)s < 33.3%(f)s ? %(x)s + exp(-%(x)s) :
    %(x)s
);
"

def floorDivTemplate : String :=
  indented 12 r"
if (%(y)s == 0) {
    %(div_zero)s;
} else if (%(y)s < 0) {
    if (%(x)s < 0) {
        %(z)s = %(mm)s;
    } else {
        %(z)s = - %(pm)s - ((%(rpm)s == 0) ? 0 : 1);
    }
} else {
    if (%(x)s < 0) {
        %(z)s = - %(mp)s - ((%(rmp)s == 0) ? 0 : 1);
    } else {
        %(z)s = %(pp)s;
    }
}
"

def moduloTemplate : String :=
  indented 12 r"
if (%(y)s == 0) {
    %(mod_zero)s;
} else if (%(y)s < 0){
    if (%(x)s < 0){
        %(z)s = -(%(mm)s);
    } else {
        %(z)s = (%(pm)s) + (%(pm)s != 0 ? %(y)s : 0);
    }
} else {
    if (%(x)s < 0){
        %(z)s = - %(mp)s + (%(mp)s != 0 ? %(y)s : 0);
    } else {
        %(z)s = %(pp)s;
    }
}
"

def byZeroTemplate : String :=
  indented 12 r#"
    #ifdef KERNEL
        %(z)s = %(pp)s;
    #else
        PyErr_SetString(PyExc_ZeroDivisionError, "integer %(what)s by zero");
        %(fail)s
    #endif
    "#

def roundTemplate : String :=
  indented 8 r"
/* Code inspired from NumPy npy_rint implementation. */
{
    %(ctype)s y, r;
    y = %(floor)s(%(x)s);
    r = %(x)s - y;
    if(r > 0.5) {
        y += 1;
    } else if(r == 0.5) {
        r = y - 2.0*%(floor)s(0.5*y);
        /*
        If y is even, then r == 0
        If y is odd,  then r == 1
        So we can just add r to y, so that
        y will be incremented only if he's odd.
        */
        y += (int)r;
    }
    %(z)s = y;
}
"

variable (d : DType) (k : ScalarKind)

def cName : String := (if d.isComplex then "theano_" else "npy_") ++ d.name
def pyName : String := if d.isUnsigned then "UI" ++ (d.name.drop 2).toString else d.name.capitalize

/-- What a piece of generated text is made for: the types of operands and results, and their names. -/
structure Place where
  (ins outs : List DType)
  (xs zs : List String)
  fail : String
  node : String := ""
  id : Option String := none

def typeNotSupported : M α := cannot "('type not supported', <class 'type'>)"

def literal (e : Elem) : M String := do
  if d.isComplex then return "None"
  if d == .bool then return if e.truthy then "1" else "0"
  textOf (.number d e)

def support : ScalarKind -> String
  | .intDiv => "#define THEANO_MACRO_MOD(x,y) (x % y)"
  | .mod => "#define THEANO_MACRO_MOD(x, y) (x % y)"
  | _ => ""

def castCall? : Option String :=
  if k matches .log | .log2 | .log10 | .log1p | .exp | .exp2 | .expm1 | .sqrt | .cos | .arccos | .sin | .arcsin | .tan | .arctan
      | .cosh | .arccosh | .sinh | .arcsinh | .tanh | .arctanh | .erf | .erfc then
    some (k.className.toLower.replace "arc" "a")
  else none

def divisionCode (isMod : Bool) (p : Place) (t : DType) (x y z : String) : M String := do
  let vars := [("x", x), ("y", y), ("z", z), ("fail", p.fail)]
  let call f a b := s!"{f}({a}, {b})"
  let byZero pp what := dedent (fill byZeroTemplate (("pp", pp) :: ("what", what) :: vars))
  if isMod then
    let (f, zero) <- if t.isDiscrete then
        let f := call "THEANO_MACRO_MOD"
        pure (f, byZero (f x y) "modulo")
      else if t.isFloat then
        let f := call "fmod"
        pure (f, z ++ " = " ++ f x y ++ ";")
      else fail .complex complexModulo
    return dedent (fill moduloTemplate ([("mod_zero", zero), ("pp", f x y), ("mm", f s!"-{x}" s!"-{y}"),
      ("pm", f x s!"-{y}"), ("mp", f s!"-{x}" y)] ++ vars))
  else
    let nx := s!"(-{x})"
    let ny := s!"(-{y})"
    let (floor, fmod) <- match t with
      | .float32 => pure ("floorf", "fmodf")
      | .float64 => pure ("floor", "fmod")
      | t => if t.isDiscrete then pure ("", "THEANO_MACRO_MOD") else cannot s!"('type not supported', '{t.name}')"
    let q a b := s!"{floor}({a} / {b})"
    let r := call fmod
    let zero := if t.isDiscrete then byZero (q x y) "division" else s!"{z} = {q x y};"
    return dedent (fill floorDivTemplate ([("div_zero", zero), ("pp", q x y), ("mm", q nx ny), ("pm", q x ny),
      ("rpm", r x ny), ("mp", q nx y), ("rmp", r nx y)] ++ vars))

def simpleCode (p : Place) : M String := do
  let x := p.xs.getD 0 ""
  let y := p.xs.getD 1 ""
  let w := p.xs.getD 2 ""
  let z := p.zs.getD 0 ""
  let dx := p.ins.getD 0 .float64
  let dy := p.ins.getD 1 .float64
  let dz := p.outs.getD 0 .float64
  let anyComplex := p.ins.any DType.isComplex
  let set s := return s!"{z} = {s};"
  let vars := [("x", x), ("y", y), ("z", z)]
  let compare op := if dx.isComplex then cannot else set s!"({x} {op} {y})"
  let floats s := if dx.isFloat then pure s else cannot "only floating point is implemented"
  let onNewLine s := s!"{z} =\n            {s};"
  let gammaCall s := do
    if dx.isFloat then return onNewLine s!"(npy_{dz.name}) {s}"
    cannot "only floatingpoint is implemented"
  match castCall? k with
  | some f =>
    if dx.isComplex then typeNotSupported
    set s!"{f}(({cName dz}){x})"
  | none =>
  match k with
  | .lt => compare "<"
  | .gt => compare ">"
  | .le => compare "<="
  | .ge => compare ">="
  | .eq => set s!"({x} == {y})"
  | .neq => compare "!="
  | .isnan | .isinf =>
    if dx.isComplex then cannot
    if dx.isDiscrete then set "false"
    else set s!"abs({k.className.toLower}({x}))"
  | .inRange a b =>
    let c1 := if a then ">" else ">="
    let c2 := if b then "<" else "<="
    set s!"{x} {c1} {y} && {x} {c2} {w}"
  | .switch => set s!"{x} ? {y} : {w}"
  | .or => set s!"({x} | {y})"
  | .xor => set s!"({x} ^ {y})"
  | .and => set s!"({x} & {y})"
  | .invert => if dz == .bool then set s!"(!{x})" else set s!"(~{x})"
  | .maximum | .minimum =>
    if anyComplex then cannot
    let (a, b) := if k == .maximum then (">", ">=") else ("<", "<=")
    set s!"(({y}){a}({x})? ({y}): (({x}){b}({y})? ({x}): nan(\"\")))"
  | .add => if p.xs.isEmpty then set "0" else set (.intercalate (if dz == .bool then " || " else " + ") p.xs)
  | .mul => if p.xs.isEmpty then set "1" else set (.intercalate (if dz == .bool then " && " else " * ") p.xs)
  | .sub => set s!"{x} - {y}"
  | .trueDiv =>
    if dx.isComplex != dy.isComplex then typeNotSupported
    if dx.isDiscrete && dy.isDiscrete then set s!"((double){x}) / {y}" else set s!"{x} / {y}"
  | .intDiv => divisionCode false p (dx.promote dy) x y z
  | .mod => divisionCode true p (dx.promote dy) x y z
  | .pow => if dx.isComplex || dy.isComplex then typeNotSupported else set s!"pow({x}, {y})"
  | .clip => set s!"{x} < {y} ? {y} : {x} > {w} ? {w} : {x}"
  | .second => set y
  | .identity => set x
  | .cast _ => if dz == .bool then set s!"({x}) ? 1 : 0" else set s!"({cName dz}){x}"
  | .abs =>
    if dx.isSigned then set s!"abs({x})"
    else if dx.isFloat then set s!"fabs({x})"
    else if dx.isComplex then set s!"sqrt({x}.real*{x}.real + {x}.imag*{x}.imag)"
    else if dz == .bool then set s!"({x}) ? 1 : 0"
    else set x
  | .sgn =>
    if dx.isFloat then set s!"({x} > 0) ? 1. : (({x} < 0) ? -1. : (isnan({x}) ? NAN : 0.))"
    else if dx.isSigned then set s!"({x} >= 0) ? ({x} == 0) ? 0 : 1 : -1"
    else fail .complex "complex has no sgn"
  | .ceil => set s!"ceil(({cName dz}){x})"
  | .floor => set s!"floor(({cName dz}){x})"
  | .trunc => set s!"{x} >= 0? floor({x}): -floor(-{x})"
  | .roundHalfEven =>
    match dz with
    | .float32 => return fill roundTemplate (("ctype", "float") :: ("floor", "floorf") :: vars)
    | .float64 => return fill roundTemplate (("ctype", "double") :: ("floor", "floor") :: vars)
    | _ => cannot "The output should be float32 or float64"
  | .roundHalfAway =>
    if dz == .float32 || dz == .float64 then set s!"round({x})"
    else cannot "The output should be float32 or float64"
  | .neg => set s!"-{x}"
  | .inv => if dx.isComplex then cannot else set s!"1.0 / {x}"
  | .sqr => set s!"{x} * {x}"
  | .deg2rad => if dx.isComplex then typeNotSupported else set s!"{x} * (M_PI / 180.0)"
  | .rad2deg => if dx.isComplex then typeNotSupported else set s!"{x} * (180.0 / M_PI)"
  | .arctan2 =>
    if dx.isComplex || dy.isComplex then typeNotSupported
    set s!"atan2(({cName dz}){x}, ({cName dz}){y})"
  | .conj => if dx.isComplex then cannot s!"('type have no c code', Scalar({dx.name}))" else set x
  | .gamma => do set (<- floats s!"tgamma({x})")
  | .gammaln =>
    if dx.isComplex then cannot "gammaln complex c code is not implemented"
    set s!"lgamma(({cName dz}){x})"
  | .psi => floats (onNewLine s!"_psi({x})")
  | .trigamma => floats (onNewLine s!"_tri_gamma({x})")
  | .j0 => floats (onNewLine s!"j0({x})")
  | .j1 => floats (onNewLine s!"j1({x})")
  | .chi2sf => gammaCall s!"1 - GammaP({y}/2., {x}/2.)"
  | .gammainc => gammaCall s!"GammaP({x}, {y})"
  | .gammaincc => gammaCall s!"GammaQ({x}, {y})"
  | .gammau => gammaCall s!"upperGamma({x}, {y})"
  | .gammal => gammaCall s!"lowerGamma({x}, {y})"
  | .sigmoid =>
    match dx with
    | .float32 | .float16 => set s!"1.0f / (1.0f + exp(-{x}))"
    | .float64 => set s!"1.0 / (1.0 + exp(-{x}))"
    | _ => cannot "only floatingpoint is implemented"
  | .ultraFastSigmoid => return fill ultraFastTemplate (("dtype", cName dz) :: vars)
  | .softplus =>
    match dx with
    | .float32 | .float16 => return fill softplusTemplate (("low", "-103") :: ("f", "f") :: vars)
    | .float64 => return fill softplusTemplate (("low", "-745") :: ("f", "") :: vars)
    | _ => cannot "only floatingpoint is implemented"
  | .xlogx | .xlogy0 =>
    if dx == .float32 || dx == .float64 then
      let pad := "\n                "
      return s!"{z} ={pad}{x} == 0.0{pad}? 0.0{pad}: {x} * log({if k == .xlogx then x else y});"
    cannot "only floatingpoint is implemented"
  | .softsign =>
    if dx == .float32 || dx == .float64 then set s!"{x} / (1.0+fabs({x}))"
    else cannot "only floating point x is implemented"
  | .mulWithoutZeros => set s!"(({x} == 0) ? ({y}) : (({y} == 0) ? ({x}) : (({y})*({x}))) )"
  | _ => cannot

mutual

def scalarCode : Nat -> ScalarOp -> Place -> M String
  | 0, _, _ => outOfFuel
  | fuel + 1, s, p => do
    match s.kind with
    | .composite c =>
      let block <- template fuel (<- compositeOf c).graph
      let xs := p.xs.zipIdx.map fun (x, i) => (s!"i{i}", x)
      let zs := p.zs.zipIdx.map fun (z, i) => (s!"o{i}", z)
      return fill block (xs ++ zs ++ [("fail", p.fail), ("nodename", p.node), ("id", p.id.getD "_DUMMY_ID_")])
    | k => simpleCode k p

def template : Nat -> GraphId -> M String
  | 0, _ => outOfFuel
  | fuel + 1, g => do
    let x <- graph g
    let mark s := s!"%({s})s"
    let mut names :=
      (x.outputs.zipIdx.map fun (v, i) => (v, mark s!"o{i}"))
        ++ x.inputs.zipIdx.map fun (v, i) => (v, mark s!"i{i}")
    for v in x.vars.toList do
      if (<- ownerOf v).isNone && !x.inputs.contains v then
        let (some c, .scalar d) := (<- constant? v, <- typeOf v)
          | failValue "All orphans in the fgraph to Composite must be Constant, CLinkerType instances."
        let e := if let some (_, e) := c.elem? then e else if let .array a := c then a.item else .int 0
        names := names ++ [(v, <- literal d e)]
    let scalarType v := do
      let .scalar d <- typeOf v | return .float64
      return d
    let mut text := "\x7b\n"
    let mut i := 0
    for (n, j) in (<- graphToposort g).zipIdx do
      for v in <- outsOf n do
        if (names.lookup v).isNone then
          i := i + 1
          let name := "V" ++ mark "id" ++ s!"_tmp{i}"
          names := names ++ [(v, name)]
          text := s!"{text}{cName (<- scalarType v)} {name};\n"
      let ins <- insOf n
      let outs <- outsOf n
      let .scalar s <- opOf n | noAttr
      let at_ v := (names.lookup v).getD ""
      let step <- scalarCode fuel s
        { ins := <- ins.mapM scalarType, outs := <- outs.mapM scalarType, xs := ins.map at_, zs := outs.map at_,
          fail := mark "fail", node := mark "nodename" ++ "_subnode" ++ toString j,
          id := some (mark "id" ++ s!"_{j}") }
      text := s!"{text}{step}\n"
    return text ++ "\x7d\n"

end

def scalarVersion : Nat -> ScalarKind -> M Values
  | 0, _ => outOfFuel
  | fuel + 1, k => do
    match k with
    | .isnan | .isinf => pure [4, 0, 3]
    | .lt | .gt | .le | .ge | .eq | .neq | .inRange .. => pure [4, 0]
    | .and => pure [4, 3]
    | .intDiv => pure [6]
    | .mod => pure [9]
    | .cast _ | .sgn => pure [4, 4]
    | .roundHalfEven | .mulWithoutZeros => pure [1]
    | .expm1 => pure [5]
    | .sigmoid | .softplus => pure [2, 4]
    | .composite c =>
      let mut l := [3]
      for n in <- graphToposort (<- compositeOf c).graph do
        let .scalar s <- opOf n | return []
        match <- scalarVersion fuel s.kind with
        | [] => return []
        | v => l := l ++ [.tuple v]
      pure l
    | _ => pure [4]

def hasCode (s : ScalarOp) (ins outs : List DType) : M Bool := do
  try
    let _ <- scalarCode 100 s { ins, outs, xs := ins.map fun _ => "x", zs := outs.map fun _ => "z", fail := "%(fail)s" }
    pure true
  catch e => if e.isA .notImplemented || e.isA .methodNotDefined then return false else throw e

/-! ## Elementwise operators and reductions as C text -/

/-- A node as its text sees it: operands and results with their names, and the statement that gives up. -/
structure NodeText where
  (ins outs : List (VarId × String))
  fail : String
  name : String := "NODE"
  params : String := "PARAMS"

def walkOf (v : VarId) (name : String) : M Walk := do
  return { name, ctype := cName (<- dtypeOf v), order := (<- bcastOf v).zipIdx.map fun (b, i) => if b then none else some i }

def joinAll (sep call : String) (names : List String) : String :=
  sep.intercalate (names.map fun n => s!"{call}({n})")

def elementwiseCode (s : ScalarOp) (inplace : List (Nat × Nat)) (n : NodeText) : M String := do
  let half p := return (<- dtypeOf p.1) == .float16
  if <- (n.ins ++ n.outs).anyM half then cannot
  let ins := n.ins.eraseDups
  let ws <- ins.mapM fun (v, x) => walkOf v x
  let full v := return (<- bcastOf v).all id
  let moving <- ins.filterM fun (v, _) => return !(<- full v)
  let fortran := if moving.isEmpty then "0" else joinAll " && " "PyArray_ISFORTRAN" (moving.map (·.2))
  let outWalks <- (n.outs.zipIdx.filter fun (_, i) => (inplace.lookup i).isNone).mapM fun ((v, z), _) => do
    let w <- walkOf v z
    pure { w with order := (List.range w.order.length).map some }
  let aliased := inplace.filterMap fun (o, i) => do pure ((<- n.outs[o]?).2, (<- n.ins[i]?).2)
  let alloc := .join (outWalks.map fun w => w.declare ++ allocate ws w.name w.ctype n.fail fortran ++ checks [w] n.fail)
    ++ .join (aliased.map fun (o, i) => fill (indented 12 r"
if (%(o)s) {
    Py_XDECREF(%(o)s);
}
%(o)s = %(i)s;
Py_XINCREF(%(o)s);
") [("o", o), ("i", i)])
  let task <- scalarCode 100 s
    { ins := <- n.ins.mapM fun p => dtypeOf p.1, outs := <- n.outs.mapM fun p => dtypeOf p.1
      xs := n.ins.map fun p => p.2 ++ "_i", zs := n.outs.map fun p => p.2 ++ "_i", fail := n.fail, node := n.name ++ "_scalar_" }
  let defines := .join (aliased.map fun (o, i) => s!"#define {o}_i {i}_i\n")
  let undefs := .join (aliased.map fun (o, _) => s!"#undef {o}_i\n")
  let vars := [("defines", defines), ("task", task), ("undefs", undefs)]
  let code := fill (indented 8 r"
{
    %(defines)s
    %(task)s
    %(undefs)s
}
") vars
  let all := ws ++ outWalks
  let first := (n.outs.head?.map (·.1)).getD default
  let levels <- ndimOf first
  if levels > 1 then raise .methodNotDefined
  let loop := if levels == 0 then fill (indented 16 r"
{
  %(defines)s
  %(init)s
  %(decl)s
  %(task)s
  %(undefs)s
}
") (vars ++ [("init", .join (all.map (·.begin_))),
                    ("decl", .join (all.map fun w => s!"{w.ctype}& {w.name}_i = *{w.name}_iter;\n"))])
    else loopOver all code
  let io := ins ++ n.outs
  let pattern <- bcastOf first
  let plain <- io.allM fun (v, _) => do return (<- bcastOf v) == pattern || (<- full v)
  let loop <- if levels == 0 || pattern.all id || !plain then pure loop else do
    let mut contig := "\n                    // All output have the same size\n                    npy_intp n = PyArray_SIZE("
      ++ (n.outs.head?.map (·.2)).getD "" ++ ");\n                    "
    let mut index := ""
    for (v, x) in io do
      if <- full v then
        contig := contig ++ fill "
            dtype_%(x)s& %(x)s_i = ((dtype_%(x)s*) PyArray_DATA(%(x)s))[0];
                            " [("x", x)]
      else
        contig := contig ++ fill "
            dtype_%(x)s * %(x)s_ptr = (dtype_%(x)s*) PyArray_DATA(%(x)s);
                            " [("x", x)]
        index := index ++ fill "
            dtype_%(x)s& %(x)s_i = %(x)s_ptr[i];
                            " [("x", x)]
    let arrays := (<- io.filterM fun (v, _) => return !(<- full v)).map (·.2)
    pure (fill (indented 12 r"
if((%(c)s) || (%(f)s)){
    %(contig)s
        for(int i=0; i<n; i++){
            %(index)s
            %(task)s;
        }
        
}else{
    %(loop)s
}
") (vars ++ [("c", joinAll " && " "PyArray_ISCONTIGUOUS" arrays), ("f", joinAll " && " "PyArray_ISFORTRAN" arrays),
                ("contig", contig), ("index", index), ("loop", loop)]))
  return "\n".intercalate [.join (ws.map (·.declare)), checks ws n.fail, alloc, loop]

def rebroadcastCode (axes : List (Nat × Bool)) (n : NodeText) : M String := do
  let ([(_, x)], [(_, z)]) := (n.ins, n.outs) | badValue
  return .join ((axes.filter (·.2)).map fun (k, _) => fill r#"
    if(PyArray_DIMS(%(x)s)[%(k)s] != 1){
        PyErr_Format(PyExc_ValueError,
            "Dimension %(k)s in Rebroadcast's input was"
            " supposed to be 1 (got %%d instead)",
            PyArray_DIMS(%(x)s)[%(k)s]);
        %(fail)s
    }
    "# [("x", x), ("k", toString k), ("fail", n.fail)]) ++ fill (indented 12 "
Py_XDECREF(%(z)s);
%(z)s = %(x)s;
Py_XINCREF(%(z)s);
") [("x", x), ("z", z)]

def partNames : List String :=
  ["c_code_cache_version_apply", "c_headers", "c_support_code", "c_support_code_apply", "c_support_code_struct",
    "c_init_code", "c_init_code_apply", "c_init_code_struct", "c_cleanup_code_struct", "c_code", "c_code_cleanup",
    "c_no_compile_args"]

def wrappedVersion (own : Int) (s : ScalarOp) (n : NodeText) : M Values := do
  match <- scalarVersion 100 s.kind with
  | [] => pure []
  | v => return own :: .tuple v :: (n.ins ++ n.outs).map fun _ => .tuple [13, "1.23.5"]

def devicePart (d : DeviceOp) (n : NodeText) (kind : String) : M Value := do
  let version k := .tuple [k, .tuple [9]]
  let deviceHeaders := ["<numpy_compat.h>", "<gpuarray/types.h>"]
  match d, kind with
  | .reduce .., "c_headers" | .softmax _, "c_headers" => listOf deviceHeaders
  | .reduce .., "c_support_code" => return indented 8 r"
template <typename T>
static T ceil_intdiv(T a, T b)
{
    return (a/b) + ((a % b) ? 1: 0);
}
"
  | .reduce _ mask _, "c_code" =>
    let ([(x, _)], [(z, _)]) := (n.ins, n.outs) | badValue
    check (((<- ndimOf x : Nat) : Int) - (<- ndimOf z : Nat) == (mask.getD []).foldl (· + ·) 0)
    raise .methodNotDefined
  | .portableReduce _, "c_code_cache_version_apply" => return version 4
  | .portableReduce _, "c_headers" => newList ["gpuarray/types.h", "numpy/npy_common.h"]
  | .softmax b, "c_code_cache_version_apply" => return version (.tuple [if b then 16 else 17])
  | .erfinv .., "c_code_cache_version_apply" => return .tuple [4]
  | .erfinv .., "c_headers" => newList ["math_functions.h", "cublas_v2.h"]
  | .erfinv c _, "c_code" =>
    let ([(_, x)], [(_, z)]) := (n.ins, n.outs) | badValue
    let (f, low, high) := if c then ("erfcinv", "0", "2") else ("erfinv", "-1", "1")
    return s!"{z} = ({x} <= {low}) ? {f}({low}.0): (({x} >= {high}) ? {f}({high}.0): {f}({x}));"
  | _, _ => raise .methodNotDefined

def part (o : Op) (n : NodeText) (kind : String) : M Value := do
  let version l := .tuple l
  let typed cls v := .tuple [s!"<class 'theano.{cls}'>", v]
  let headers := newList ["<vector>", "<algorithm>"]
  match o, kind with
  | .scalar s, "c_code_cache_version_apply" => return .tuple (<- scalarVersion 100 s.kind)
  | .scalar s, "c_support_code" | .elemwise s .., "c_support_code" => pure (support s.kind)
  | .scalar s, "c_code" =>
    let scalarType p := do
      let .scalar d <- typeOf p.1 | noAttr
      return d
    return (<- scalarCode 100 s
      { ins := <- n.ins.mapM scalarType, outs := <- n.outs.mapM scalarType, xs := n.ins.map (·.2), zs := n.outs.map (·.2)
        fail := n.fail, node := n.name })
  | .elemwise s .., "c_code_cache_version_apply" =>
    match <- wrappedVersion 13 s n with
    | [] => return .tuple []
    | v => return .tuple (v ++ [.tuple ["openmp", false]])
  | .elemwise .., "c_headers" | .reduce _, "c_headers" => headers
  | .elemwise s p _, "c_code" => elementwiseCode s p n
  | .reduce r, "c_code_cache_version_apply" => return .tuple (<- wrappedVersion 8 r.scalar n)
  | .maxAndArgmax _, "c_code_cache_version_apply" => return version [5]
  | .argmax _, "c_code_cache_version_apply" => return version [1]
  | .rebroadcast _, "c_code_cache_version_apply" =>
    return version [typed "gpuarray.type.GpuArrayType" 1, typed "tensor.type.TensorType" 1, 1]
  | .rebroadcast a, "c_code" => rebroadcastCode a n
  | .device d, kind => devicePart d n kind
  | _, _ => raise .methodNotDefined

/-! ## What types contribute to a generated program -/

variable (n : Nat) (text : String)

private def blanks : String := .ofList (.replicate n ' ')

def inset : String :=
  "\n".intercalate ((text.splitOn "\n").map fun l => if l == "" then l else blanks n ++ l)

def para : String := "\n" ++ inset n text ++ "\n" ++ blanks n

/-- What variables of a type contribute. -/
structure TypeText extends BuildSpec where
  declare : Bool -> String
  init : String
  extract : Bool -> M String
  sync : M String
  cleanup : String := ""
  element : String := ""
  support : String := ""
  start : List String := []
  version : Values

def misaligned (a head more : String) : String :=
  let dims := ["DIMS", "STRIDES"].flatMap fun f => [3, 2, 1].map fun k =>
    inset 17 s!"(long int) (PyArray_NDIM({a}) >= {k} ?" ++ s!"\nPyArray_{f}({a})[PyArray_NDIM({a})-{k}] : -1)"
  "    PyErr_Format(PyExc_NotImplementedError,\n" ++ inset 17 (head ++ r#"" with %ld dimensions, with 3 last dims "
"%ld, %ld, %ld"
" and 3 last strides %ld %ld, %ld.",
"# ++ more ++ s!"(long int) PyArray_TYPE((PyArrayObject*) py_@),\n(long int) PyArray_NDIM({a}),\n")
    ++ ",\n".intercalate dims ++ "\n);\n    $F\n\x7d"

def tensorCheck : String := r#"@ = NULL;
if (py_@ == Py_None) {
    // We can either fail here or set @ to NULL and rely on Ops
    // using tensors to handle the NULL case, but if they fail to do so
    // they'll end up with nasty segfaults, so this is public service.
    PyErr_SetString(PyExc_ValueError, "expected an ndarray, not None");
    $F
}
if (!PyArray_Check(py_@)) {
    PyErr_SetString(PyExc_ValueError, "expected an ndarray");
    $F
}
// We expect $N
if (!PyArray_ISALIGNED((PyArrayObject*) py_@)) {
    PyArrayObject * tmp = (PyArrayObject*) py_@;
"# ++ misaligned "tmp" "\"expected an aligned array of type %ld \"\n\"($N), got non-aligned array of type %ld\"\n"
    "(long int) $N,\n" ++ r#"
// This is a TypeError to be consistent with DEBUG_MODE
// Note: DEBUG_MODE also tells the name of the container
if (PyArray_TYPE((PyArrayObject*) py_@) != $N) {
    PyErr_Format(PyExc_TypeError,
                 "expected type_num %d ($N) got %d",
                 $N, PyArray_TYPE((PyArrayObject*) py_@));
    $F
}"#

def tensorSync : String := r"{Py_XDECREF(py_@);}
if (!@) {
    Py_INCREF(Py_None);
    py_@ = Py_None;
}
else if ((void*)py_@ != (void*)@) {
    py_@ = (PyObject*)@;
}

{Py_XINCREF(py_@);}

if (@ && !PyArray_ISALIGNED((PyArrayObject*) py_@)) {
" ++ misaligned "@" "\"c_sync: expected an aligned array, got non-aligned array of type %ld\"\n" ""

def complexSupport : String :=
  let kinds := ["theano_complex64", "theano_complex128"]
  let reals := ["int8", "int16", "int32", "int64", "float32", "float64"].map ("npy_" ++ ·)
  let body := fun bits half => (para 12 r"struct theano_complex@ : public npy_complex@
{
    typedef theano_complex@ complex_type;
    typedef npy_float$ scalar_type;

    complex_type operator +(const complex_type &y) const {
        complex_type ret;
        ret.real = this->real + y.real;
        ret.imag = this->imag + y.imag;
        return ret;
    }

    complex_type operator -() const {
        complex_type ret;
        ret.real = -this->real;
        ret.imag = -this->imag;
        return ret;
    }
    bool operator ==(const complex_type &y) const {
        return (this->real == y.real) && (this->imag == y.imag);
    }
    bool operator ==(const scalar_type &y) const {
        return (this->real == y) && (this->imag == 0);
    }
    complex_type operator -(const complex_type &y) const {
        complex_type ret;
        ret.real = this->real - y.real;
        ret.imag = this->imag - y.imag;
        return ret;
    }
    complex_type operator *(const complex_type &y) const {
        complex_type ret;
        ret.real = this->real * y.real - this->imag * y.imag;
        ret.imag = this->real * y.imag + this->imag * y.real;
        return ret;
    }
    complex_type operator /(const complex_type &y) const {
        complex_type ret;
        scalar_type y_norm_square = y.real * y.real + y.imag * y.imag;
        ret.real = (this->real * y.real + this->imag * y.imag) / y_norm_square;
        ret.imag = (this->imag * y.real - this->real * y.imag) / y_norm_square;
        return ret;
    }
    template <typename T>
    complex_type& operator =(const T& y);

    theano_complex@() {}

    template <typename T>
    theano_complex@(const T& y) { *this = y; }

    template <typename TR, typename TI>
    theano_complex@(const TR& r, const TI& i) { this->real=r; this->imag=i; }
};").replace "@" bits |>.replace "$" half
  let each others t :=
    .join (kinds.flatMap fun a => others.map fun b => (para 16 t).replace "@" a |>.replace "$" b)
  let assign v :=
    "template <> @ & @::operator=<$>(const $ & y)\n\x7b this->real=y" ++ v ++ "; return *this; \x7d"
  let real sign one two := each reals (s!"const @ operator{sign}(const @ &x, const $ &y)
\x7b return @({one}); \x7d

const @ operator{sign}(const $ &y, const @ &x)
\x7b return @({two}); \x7d")
  body "64" "32" ++ body "128" "64" ++ each reals (assign "; this->imag=0") ++ each kinds (assign ".real; this->imag=y.imag")
    ++ real "+" "x.real+y, x.imag" "x.real+y, x.imag" ++ real "-" "x.real-y, x.imag" "y-x.real, -x.imag"
    ++ real "*" "x.real*y, x.imag*y" "x.real*y, x.imag*y"

def scalarText (d : DType) : TypeText :=
  let c := cName d
  let put t := (t.replace "$C" c).replace "$P" (pyName d)
  { declare := fun check => (if check then s!"\n                typedef {c} dtype_@;\n            " else "") ++ para 8 s!"{c} @;"
    init := para 8 "@ = 0;"
    extract := fun check => do
      if d == .float16 then cannot "float16"
      return (if check then put (para 12 r#"if (!PyObject_TypeCheck(py_@, &Py$PArrType_Type))
{
    PyErr_Format(PyExc_ValueError,
        "Scalar check failed ($C)");
    $F
}"#) else "") ++ para 8 "PyArray_ScalarAsCtype(py_@, &@);"
    sync := return put (para 8 r#"Py_XDECREF(py_@);
py_@ = PyArrayScalar_New($P);
if (!py_@)
{
    Py_XINCREF(Py_None);
    py_@ = Py_None;
    PyErr_Format(PyExc_MemoryError,
        "Instantiation of new Python scalar failed ($C)");
    $F
}
PyArrayScalar_ASSIGN(py_@, $P, @);"#)
    element := c
    support := if d.isComplex then complexSupport else ""
    headers := ["<math.h>", "<numpy/arrayobject.h>", "<numpy/arrayscalars.h>"]
    start := ["import_array();"]
    version := [13, "1.23.5"] }

def typeText? : Ty -> Option TypeText
  | .scalar d => some (scalarText d)
  | .tensor d .. =>
    let s := scalarText d
    some { s with
      declare := fun check => para 8 "PyArrayObject* @;" ++ (if check then para 12 s!"typedef {cName d} dtype_@;" else "")
      init := para 8 "@ = NULL;"
      extract := fun check => pure ((if check then (para 12 tensorCheck).replace "$N" s!"NPY_{d.name.toUpper}" else "")
        ++ para 8 "@ = (PyArrayObject*)(py_@);\nPy_XINCREF(@);")
      sync := return para 8 tensorSync
      cleanup := para 8 "if (@) \x7b\n    Py_XDECREF(@);\n\x7d"
      version := 11 :: s.version }
  | .generic | .noneType => some
    { declare := fun _ => para 8 "PyObject* @;"
      init := para 8 "@ = NULL;"
      extract := fun _ => return para 8 "Py_INCREF(py_@);\n@ = py_@;"
      sync := return para 8 "assert(py_@->ob_refcnt > 1);\nPy_DECREF(py_@);\npy_@ = @ ? @ : Py_None;\nPy_INCREF(py_@);"
      cleanup := para 8 "Py_XDECREF(@);"
      version := [1] }
  | _ => none

def about (name fail template : String) : String := (template.replace "@" name).replace "$F" fail

def TypeText.extractOut (t : TypeText) (check : Bool) : M String := do
  return "\n        if (py_@ == Py_None)\n        \x7b\n            " ++ t.init
    ++ "\n        \x7d\n        else\n        \x7b\n            " ++ (<- t.extract check) ++ "\n        \x7d\n        "

end TensorGraph.CText
