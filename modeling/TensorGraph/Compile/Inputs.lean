import TensorGraph.Compile.Mode

/-!
# Inputs and outputs of functions

A request for a function names variables, updates and replacements. The expressions are copied with the replacements made,
and with the default updates that are met.
-/

namespace TensorGraph

def Fault.withLast (e : Fault) (extra : String) : Fault :=
  if !e.told then e
  else if isTuple e.message then { e with message := (e.message.dropEnd 1).toString ++ ", " ++ quoted extra ++ ")" }
  else { e with message := tupleText [quoted e.message, quoted extra] }
where
  isTuple (s : String) : Bool := (s.startsWith "('" || s.startsWith "(\"") && s.endsWith ")"

def Fault.withFirst (e : Fault) (extra : String) : Fault :=
  if !e.told then e
  else if Fault.withLast.isTuple e.message then { e with message := "(" ++ quoted extra ++ ", " ++ (e.message.drop 1).toString }
  else { e with message := extra ++ e.message }

/-- What a program says of an input. -/
structure InputRequest where
  subject : Value
  name : Value := .null
  update : Value := .null
  mutable : Value := .null
  strict : Value := false
  allowDowncast : Value := .null
  autoname : Bool := true
  implicit : Value := false

variable (b : BoxId) (r : InputRequest) (v : Value)

def containerBox? : M (Option BoxId) := do
  let .record r := v | pure none
  if (<- record r).cls != "Container" then return none
  let .int i <- field r "box" | pure none
  return some ⟨i.toNat⟩

def containerOf : M Value := newRecord "Container" [("box", b.idx)]

def sharedBox? : M (Option BoxId) := do
  let .var x := v | pure none
  let .shared b := (<- varInfo x).role | pure none
  return some b

def containerFilter (t : Ty) (v : Value) (strict : Bool) (allowDowncast : Option Bool) (name : Option String) : M Value := do
  if v.isNull then return v
  try t.filter v strict allowDowncast
  catch e => throw (e.withLast ("Container name \"" ++ name.getD "None" ++ "\""))

def fillBox : M Unit := do
  let x <- box b
  if x.readonly then fail .generic ("Cannot set readonly storage: " ++ x.name.getD "None")
  setBox b (<- containerFilter x.type v x.strict x.allowDowncast x.name)

def deepCopy : Nat -> Value -> M Value
  | 0, _ => outOfFuel
  | fuel + 1, v => do
    match v with
    | .tuple xs => return .tuple (<- xs.mapM (deepCopy fuel))
    | .list c => do newList (<- (<- cellItems c).mapM (deepCopy fuel))
    | .set c => do newSet (<- (<- cellItems c).mapM (deepCopy fuel))
    | .orderedSet c => do newOrderedSet (<- (<- cellItems c).mapM (deepCopy fuel))
    | .dict c => do newDict (<- (<- cellPairs c).mapM fun (k, x) => do return (<- deepCopy fuel k, <- deepCopy fuel x))
    | v => pure v

/-! ## Descriptions of inputs -/

def typeOfValue : M Ty := if let .var x := v then typeOf x else noAttr

def inputFields : M (Table Value) := do
  check (!r.implicit.isNull)
  let name <- if r.autoname && r.name.isNull then
      if let .var v := r.subject then do pure (.ofName (<- nameOf v)) else noAttr
    else pure r.name
  match name with
  | .null | .str _ => pure ()
  | n => failType s!"name must be a string! (got: {<- textOf n})"
  if !r.update.isNull then
    let t <- typeOfValue r.subject
    let u <- typeOfValue r.update
    if t != u then
      failType (s!"Variable '{<- textOf r.subject}' has type {t.text}" ++ " but an update of type " ++ u.text
        ++ ". The type of the update should be the same as the type of the variable")
  let mutable := if r.mutable.isNull then .bool (!r.update.isNull) else r.mutable
  return [("variable", r.subject), ("name", name), ("update", r.update), ("mutable", mutable), ("strict", r.strict),
    ("allow_downcast", r.allowDowncast), ("implicit", r.implicit)]

def symbolicInput : M Value := do newRecord "SymbolicInput" (<- inputFields r)

def newInput (value borrow : Value) (shared : Value := false) : M Value := do
  let borrow := if borrow.isNull then r.mutable else borrow
  if (<- truthOf r.mutable) && !(<- truthOf borrow) then
    fail .assertion ("Symbolic input for variable " ++ (<- textOf r.subject) ++ " (name=" ++ (<- textOf r.name)
      ++ ") has flags mutable=True, borrow=False. This combination is incompatible since mutable=True implies that the "
      ++ "input variable may be both aliased (borrow=True) and overwritten.")
  let implicit <- if r.implicit.isNull then do
      pure (.bool ((<- containerBox? value).isSome || (<- sharedBox? value).isSome))
    else pure r.implicit
  let fields <- inputFields { r with implicit }
  if (<- truthOf implicit) && value.isNull then failType "An implicit input must be given a default value"
  newRecord "In" (fields ++ [("value", value), ("borrow", borrow), ("shared", shared)])

def newOutput (subject : Value) (borrow : Value := false) : M Value :=
  newRecord "SymbolicOutput" [("variable", subject), ("borrow", borrow)]

def isInput : M Bool := do return ["In", "SymbolicInput"].contains ((<- recordClass? v).getD "")
def isOutput : M Bool := do return (<- recordClass? v) == some "SymbolicOutput"

def inputSpec : M InputSpec := do
  let .record r := v | noAttr
  let x <- record r
  let get n := (x.fields.lookup n).getD .null
  let .var subject := get "variable" | noAttr
  let value := get "value"
  return { var := subject, name := (get "name").str?, value, hasValue := !value.isNull, update := (get "update").var?,
           mutable := <- truthOf (get "mutable"), borrow := <- truthOf (get "borrow"), strict := <- truthOf (get "strict"),
           allowDowncast := if let .bool b := get "allow_downcast" then some b else none,
           implicit := <- truthOf (get "implicit"), sharedBox := <- containerBox? value, cls := x.cls }

def outputSpec : M OutputSpec := do
  let .record r := v | noAttr
  let .var x <- field r "variable" | noAttr
  return { var := x, borrow := <- truthOf (<- field r "borrow") }

def wrapInput : M Value := do
  if <- isInput v then return v
  match v with
  | .var _ => symbolicInput { subject := v }
  | .tuple _ | .list _ =>
    let [x, u] <- itemsOf v
      | failWith .type ["'Expected two elements in the list or tuple.'", <- reprOf v]
    symbolicInput { subject := x, update := u }
  | _ => failType s!"Unknown input type: {<- classTextOf v} ({<- textOf v}), expected Variable instance"

def wrapOutput : M Value := do
  if <- isOutput v then return v
  let .var _ := v | failType s!"Unknown output type: {<- classTextOf v} ({<- textOf v})"
  newOutput v

/-- The outputs that a function is asked for: their wrappings, whether one is asked for by itself, and whether none is. -/
def wrapOutputs : M (Values × Bool × Bool) := do
  match v with
  | .null => pure ([], false, true)
  | .list _ | .tuple _ => return (<- (<- itemsOf v).mapM wrapOutput, false, false)
  | o => pure ([<- wrapOutput o], true, false)

def convertInput : M Value := do
  if <- isInput v then return v
  match v with
  | .var x =>
    if <- isConstant x then
      failWith .type ["'A Constant instance is not a legal function input'", <- reprOf v]
    newInput { subject := v, implicit := .null } .null .null
  | .tuple _ | .list _ =>
    let parts <- itemsOf v
    let invalid {α : Type} : M α := do
      failType s!"Invalid input syntax: {<- textOf v} (check documentation or use an In instance)"
    let (name, rest, tail) <- match parts with
      | [] => failType s!"Nonsensical input specification: {<- textOf v}"
      | .str n :: rest => do
        let tail <- if let .list _ := v then newList rest else pure (.tuple rest)
        pure (.str n, rest, tail)
      | rest => pure (.null, rest, v)
    let (subject, update, value) <- match rest with
      | [] => badIndex
      | first :: more => do
        match first with
        | .tuple _ | .list _ =>
          match <- itemsOf first, more with
          | [x, u], [val] => pure (x, u, val)
          | _, _ => invalid
        | .var _ =>
          match more with
          | [] => pure (first, .null, .null)
          | [val] => pure (first, .null, val)
          | _ => invalid
        | other =>
          if <- isInput other then
            match more, other with
            | [], _ => return other
            | [val], .record r =>
              if !name.isNull then setField r "name" name
              setField r "value" val
              return other
            | _, _ => raise .unboundLocal
          else failType s!"The input specification is not valid: {<- textOf tail}"
    if subject.var?.isNone then
      failWith .type [quoted s!"Unknown input type: {<- classTextOf subject}, expected Variable instance",
        <- reprOf subject]
    if !update.isNull && update.var?.isNone then
      failWith .type [quoted s!"Unknown update type: {<- classTextOf update}, expected Variable instance",
        <- reprOf update]
    if value.var?.isSome || (<- isInput value) then
      failType s!"The value for input {<- textOf subject} should not be a Variable or SymbolicInput instance (got: {<- textOf value})"
    newInput { subject, name, update, implicit := .null } value .null
  | _ =>
    failWith .type [quoted s!"Unknown input type: {<- classTextOf v}, expected Variable instance",
      <- reprOf v]

def inputsText (named : List String) (unnamed : Nat) : String :=
  let s n := if n > 1 then "s" else ""
  let n := named.length
  if n == 0 then
    if unnamed == 0 then "The function is supposed to have no input."
    else if unnamed == 1 then
      "The function has a single input variable which has no name, and thus cannot be assigned through a keyword argument "
        ++ "(use 'name=...' in a Variable's constructor to give it a name)."
    else
      "The function has " ++ toString unnamed ++ " inputs, but none of them is named, and thus they cannot be assigned "
        ++ "through keyword arguments (use 'name=...' in a Variable's constructor to give it a name)."
  else if unnamed == 0 then
    "The function has " ++ toString n ++ " named input" ++ s n ++ " (" ++ ", ".intercalate named ++ ")."
  else
    "The function has " ++ toString n ++ " named input" ++ s n ++ " (" ++ ", ".intercalate named ++ "), and "
      ++ toString unnamed ++ " unnamed input" ++ s unnamed ++ " which thus cannot be accessed through keyword argument"
      ++ s unnamed ++ " (use 'name=...' in a variable's constructor to give it a name)."

/-! ## Copying expressions for a function -/

def newShared (t : Ty) (value : Value) (name : Option String) (strict : Bool) (allow : Option Bool) : M VarId := do
  let b <- newBox { type := t, value := (<- t.filter value strict allow), strict, allowDowncast := allow, name }
  addVar { type := t, name, role := .shared b }

def sharedFrom (x : Value) (name : Option String) (strict : Bool) (allow : Option Bool)
    (pattern : Option (List Bool)) : M VarId := do
  match x with
  | .array a => newShared (.tensor a.dtype (pattern.getD (a.shape.map fun _ => false)) none) x name strict allow
  | .sparse m => newShared (.sparse m.format m.dtype) x name strict allow
  | .record r =>
    if (<- record r).cls == "RandomState" then newShared .randomState x name strict allow
    else newShared .generic x name strict allow
  | x =>
    if let some (d, e) := x.elem? then newShared (.tensor d [] none) (.array (.ofElem d e)) name strict allow
    else newShared .generic x name strict allow

def exactVariable (t : Ty) (x : Value) : M VarId := do
  let v <- match x with
    | .var v => pure v
    | x => do newConstant t (<- t.filter x)
  if (<- typeOf v) == t then return v
  refuseVariable t v

/-- Which shared variables keep their value though they have an update of their own. -/
inductive KeepDefaults
  | none
  | all
  | these (vs : Vars)

/-- How expressions are copied. -/
structure CopyRule where
  strict : Bool := true
  keepInputs : Bool := true
  keep : KeepDefaults := .none

/-- What is known while expressions are copied. -/
structure CopyState where
  map : CloneMap := {}
  updates : VarPairs := []
  given : VarPairs := []
  shared : Vars := []

variable (s : CopyState) (r : CopyRule) (pairs : Pairs)

namespace CopyState

def find? (v : VarId) : Option VarId := s.map.vars[v]?

def note (v w : VarId) : CopyState := { s with map := s.map.note v w }
def notes (vs ws : Vars) : CopyState := { s with map := s.map.notes vs ws }

def noteNode (n m : NodeId) : CopyState :=
  { s with map := { s.map with nodes := s.map.nodes.insert n m } }

def share (v : VarId) : CopyState := if s.shared.contains v then s else { s with shared := s.shared ++ [v] }

end CopyState

def KeepDefaults.allows (k : KeepDefaults) (v : VarId) : Bool :=
  match k with
  | .none => true
  | .all => false
  | .these vs => !vs.contains v

variable (v : VarId) (s : CopyState)

def meetShared : M CopyState := do
  let s := s.share v
  let some u := (<- varInfo v).attrs.lookup "default_update" | pure s
  if !r.keep.allows v || (s.updates.lookup v).isSome then return s
  let w <- exactVariable (<- typeOf v) u
  return { s with updates := s.updates ++ [(v, w)], given := s.given ++ [(v, w)] }

def copyVariable (r : CopyRule) : Nat -> VarId -> CopyState -> M (VarId × CopyState)
  | 0, _, _ => outOfFuel
  | fuel + 1, v, s => do
    match s.find? v with
    | some w => pure (w, s)
    | none =>
      let i <- varInfo v
      match i.owner with
      | some n =>
        let s <- if s.map.nodes.contains n then pure s else do
          let ins <- insOf n
          let s <- ins.foldlM (fun s x => return (<- copyVariable r fuel x s).2) s
          let m <- cloneWithInputs n (ins.map fun x => (s.find? x).getD x) r.strict
          pure ((s.notes (<- outsOf n) (<- outsOf m)).noteNode n m)
        let some w := s.find? v | pure (v, s.note v v)
        pure (w, s)
      | none =>
        let s <- if let .shared _ := i.role then meetShared r v s else pure s
        let w <- if r.keepInputs then pure v else cloneVar v
        pure (w, s.note v w)

def walkFuel : M Nat := do return (<- getArena).weight * 2 + 100

def copyExpression : M (VarId × CopyState) := do
  copyVariable r (<- walkFuel) v s

def argsText (parts : List String) : String := tupleText parts

def copyReplacements : M CopyState := do
  let mut s := s
  for (old, new) in pairs do
    match old with
    | .var v =>
      let w <- match new with
        | .var w => pure w
        | x => sharedFrom x none false none none
      if s.map.vars.contains v then
        fail .assertion ("When using 'givens' or 'replace' with several (old_v, new_v) replacement pairs, you can not "
          ++ "have a new_v variable depend on an old_v one. For instance, givens = \x7ba:b, b:(a+1)\x7d is not allowed. "
          ++ s!"Here, the old_v {<- varText v}" ++ " is used to compute other new_v's, but it is scheduled to be "
          ++ s!"replaced by {<- varText w}.")
      let (c, s') <- copyExpression r w s
      s := { s' with map := { s'.map with vars := s'.map.vars.insert v c } }
    | x => failType (argsText ["'given keys must be Variable'", <- reprOf x])
  pure s

def copyUpdates : M CopyState := do
  let mut s := s
  for (target, value) in pairs do
    let v <- match target with
      | .var v => do
        let .shared _ := (<- varInfo v).role
          | failType (argsText ["'update target must be a SharedVariable'", <- reprOf target])
        pure v
      | x => failType (argsText ["'update target must be a SharedVariable'", <- reprOf x])
    match s.updates.lookup v with
    | some u =>
      failValue (argsText ["'this shared variable already has an update expression'",
        tupleText [<- varText v, <- varText u]])
    | none => pure ()
    let t <- typeOf v
    let w <- try exactVariable t value
      catch e =>
        if !e.isA .type then throw e
        let vt <- varText v
        let ut <- if let .var u := value then do pure ((<- typeOf u).text) else pure "None"
        failType (argsText [quoted ("An update must have the same type as the original shared variable (shared_var="
            ++ vt ++ s!", shared_var.type={t.text}, update_val={<- textOf value}, update_val.type={ut}"
            ++ ")."),
          quoted ("If the difference is related to the broadcast pattern, you can call the "
            ++ "tensor.unbroadcast(var, axis_to_unbroadcast[, ...]) function to remove broadcastable dimensions.")])
    s := { s with updates := s.updates ++ [(v, w)], given := s.given ++ [(v, w)] }
  pure s

/-- Copies the updates from a place on, with those that are met on the way. -/
def copyUpdateExpressions (r : CopyRule) : Nat -> Nat -> CopyState -> M CopyState
  | 0, _, _ => outOfFuel
  | fuel + 1, i, s => do
    let some (v, u) := s.given[i]? | pure s
    let (w, s) <- copyExpression r u s
    let s := { s with updates := s.updates.map fun (a, b) => if a == v then (a, w) else (a, b) }
    copyUpdateExpressions r fuel (i + 1) (s.share v)

def outputVariable? (o : Value) : M (Option VarId) := do
  match o with
  | .var v => return some v
  | .record x =>
    if <- isOutput o then return (<- field x "variable").var?
    pure none
  | _ => pure none

def rebuild (outputs : Values) (inputs : Vars) (replace updates : Pairs) :
    M (Vars × Values × CopyState) := do
  let mut s <- copyReplacements r replace {}
  let mut ins := []
  for i in inputs do
    let c <- if let some w := s.find? i then pure w else if r.keepInputs then pure i else cloneVar i
    s := s.note i c
    ins := ins ++ [c]
  for v in ins do
    let .shared _ := (<- varInfo v).role | pure ()
    failType
      s!"Cannot use a shared variable ({<- varText v}) as explicit input. Consider substituting a non-shared variable via the `givens` parameter"
  s <- copyUpdates updates s
  let mut outs := []
  for o in outputs do
    let v <- if let some v := <- outputVariable? o then pure v
      else failType s!"Outputs must be theano Variable or Out instances. Received {<- textOf o} of type {<- classTextOf o}"
    let (w, s') <- copyExpression r v s
    s := s'
    let made <- if let .record x := o then newOutput w (<- field x "borrow") else pure w
    outs := outs ++ [made]
  -- a variable is given one update at most
  s <- copyUpdateExpressions r ((<- getArena).vars.size + 1) 0 s
  pure (ins, outs, s)

/-! ## Replacing parts of expressions -/

def passTestValue (src dst : VarId) : M Unit := do
  if (<- settingText "compute_test_value") == "off" then return
  let some x <- attempt (testValue src) | pure ()
  setTag dst "test_value" x

def freshOf : M VarId := do newVar (<- typeOf v)

def freshLike (x : VarId) (suffix : String := "") (dtype : Option DType := none) : M VarId := do
  let i <- varInfo x
  let other := match dtype with
    | some d => if i.type.dtype? == some d then none else some d
    | none => none
  let name := i.name.map (· ++ suffix)
  match i.role, i.type with
  | .constant data, _ =>
    match other with
    | none => cloneVar x
    | some d =>
      let t <- typeOf (<- Tensor.cast x d)
      let c <- newConstant t (<- t.filter data) i.name
      copyTags x c
      pure c
  | _, .scalar d =>
    let w <- newVar (.scalar (dtype.getD d)) name
    passTestValue x w
    pure w
  | _, _ =>
    let y <- try asTensor x
      catch e => if e.isA .type then pure x else throw e
    let y <- if let some d := other then Tensor.cast y d else pure y
    let w <- newVar (<- typeOf y) name
    passTestValue y w
    pure w

def lastByKey [BEq α] (pairs : List (α × β)) : List (α × β) := pairs.foldl (fun acc (k, v) => alistSet k v acc) []

def substituteValues (outs : Values) (pairs : List (VarId × Value)) (strict : Bool := true) (share : Bool := true) :
    M Values := do
  let rule := { strict, keepInputs := share }
  let held <- pairs.mapM fun (x, _) => do return (x, <- freshOf x)
  let (_, mid, _) <- rebuild rule outs [] held []
  let (_, res, _) <- rebuild rule mid [] ((held.zip pairs).map fun ((_, h), (_, y)) => (h, y)) []
  pure res

def substitute (outs : Vars) (pairs : VarPairs) (strict : Bool := true) (share : Bool := true) :
    M Vars := do
  return (<- substituteValues (valuesOf outs) (pairs.map fun (x, y) => (x, y)) strict share).filterMap Value.var?

def substitute1 (out : VarId) (pairs : VarPairs) : M VarId := do return (<- substitute [out] pairs).headD out

def outermost (a : Arena) (isMatch : VarId -> Bool) : Nat -> Vars -> Std.HashSet VarId -> Vars
  | 0, _, _ | _, [], _ => []
  | fuel + 1, v :: rest, seen =>
    if seen.contains v then outermost a isMatch fuel rest seen
    else
      let seen := seen.insert v
      if isMatch v then v :: outermost a isMatch fuel rest seen
      else if let some n := a.owner v then outermost a isMatch fuel ((a.inputs n).reverse ++ rest) seen
        else outermost a isMatch fuel rest seen

def forcedReplace (out x y : VarId) : M VarId := do
  let a <- getArena
  let found := outermost a (fun v => a.equalComputations [v] [x] [] []) (2 * a.weight + 10) [out] {}
  if found.isEmpty then return out
  substitute1 out (found.map (·, y))

def reconstruct (ins outs : Vars) (suffix : String := "") : M (Vars × Vars) := do
  let fresh <- ins.mapM fun x => freshLike x suffix
  let a <- getArena
  let copies <- ((a.graphInputs outs).filter a.isConstant).mapM fun c => do return (c, <- cloneVar c)
  return (fresh, <- substitute outs (lastByKey (ins.zip fresh ++ copies)))

end TensorGraph
