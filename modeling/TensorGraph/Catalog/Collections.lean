import TensorGraph.Catalog.Variable

/-! # Collections and schedules -/

namespace TensorGraph

def orderedItems (v : Value) : M Values := do
  let xs <- iterate v
  if xs.length > 1 && !(v matches .list _ | .tuple _ | .orderedSet _ | .str _) then
    fail .assertion "Get an not ordered iterable when one was expected"
  return distinctValues xs

def orderedSetMethods : Table Callable := [
  change "add" "key" fun xs k => return (distinctValues (xs ++ [k]), some .null),
  change "discard" "key" fun xs k => return (without xs [k], some .null),
  change "remove" "key" fun xs k => do
    if !xs.any (·.isKey k) then badKey
    return (without xs [k], some .null),
  change "pop" "last=True" fun xs last => do
    let some x := if <- truthOf last then xs.getLast? else xs.head? | fail .key "'set is empty'"
    return (without xs [x], some x),
  change "update" "s" fun xs s => do return (distinctValues (xs ++ (<- orderedItems s)), some .null),
  change "union" "s" fun xs s => do return (xs, some (<- newOrderedSet (distinctValues (xs ++ (<- orderedItems s))))),
  change "intersection_update" "s" fun xs s => do return (<- xs.filterM fun x => containsValue x s, none),
  change "difference_update" "s" fun xs s => do return (without xs (<- orderedItems s), none),
  change "isdisjoint" "s" fun xs s => do
    let ys <- iterate s
    return (xs, some (xs.all fun x => !ys.any (·.isKey x))),
  change "copy" "s=None" fun xs _ => do return (xs, some (<- newOrderedSet xs)) ]
where
  without (xs ys : Values) : Values := xs.filter fun x => !ys.any (·.isKey x)
  /- a method that changes the members and answers something, or the set itself -/
  change (name sig : String) (f : Values -> Value -> M (Values × Option Value)) : MethodRow :=
    meth s!"OrderedSet.{name}" sig fun
      | [.orderedSet c, v] => do
        let (xs, r) <- f (<- cellItems c) v
        setCell c (.seq xs.toArray)
        return r.getD (.orderedSet c)
      | _ => badType

/-! ## Mappings -/

variable (r : RecordId) (s : String)

def setEntry (k v : Value) : M Unit := do
  if (<- record r).cls == "OrderedUpdates" then
    if !(<- if let .var x := k then isShared x else pure false) then
      failWith .type ["'OrderedUpdates keys must inherit from SharedVariable'", <- reprOf k]
  setItem (<- field r "items") k v

def newMapping (cls : String) (source : Value) (more : Table Value) (default : Value := .null) : M Value := do
  let .record r <- newRecord cls [("items", <- newDict []), ("default_factory", default)] | badType
  for (k, v) in (<- pairsOf source) ++ more.map fun (k, v) => (.str k, v) do setEntry r k v
  if cls == "FrozenOrderedDict" then
    let shown <- (<- pairsOf r).mapM fun (k, v) => reprOf (.tuple [k, v])
    setField r "text" s!"<{cls} OrderedDict([{commaList shown}])>"
  pure r

def updateWith (other : Value) : M Unit := do
  for (k, v) in <- pairsOf other do
    if let some w := lookupKey k (<- pairsOf r) then
      if !(<- valuesEqual w v) then failWith .key ["'Collision'", <- reprOf k]
    else setEntry r k v

def mappingMethods : Table Callable :=
  (["frozendict", "FrozenOrderedDict", "DefaultOrderedDict", "OrderedUpdates"].flatMap fun c => [
    meth2 s!"{c}.__getitem__" "key" fun r k => do
      if let some v := lookupKey k (<- pairsOf (.record r)) then return v
      if c != "DefaultOrderedDict" then badKey
      let make <- field r "default_factory"
      if make.isNull then fail .key (<- reprOf k)
      let v <- callValue make [] []
      setEntry r k v
      return v,
    meth2 s!"{c}.__contains__" "key" fun r k => do containsValue k (<- field r "items"),
    meth1 s!"{c}.__len__" "" fun r => do lengthOf (<- field r "items"),
    meth1 s!"{c}.__iter__" "" fun r => field r "items",
    meth2 s!"{c}.copy" "**kwargs" fun r kw => do newMapping c r kw.pairs (<- field r "default_factory") ])
  ++ ["DefaultOrderedDict", "OrderedUpdates"].map (fun c => meth3 s!"{c}.__setitem__" "key, value" setEntry) ++ [
  meth2 "OrderedUpdates.update" "other=None" updateWith,
  meth2 "OrderedUpdates.__add__" "other" joined,
  meth2 "OrderedUpdates.__radd__" "other" fun a b => joined b a,
  meth "tuple.memoized" "*args, **kwargs" fun
    | [.tuple [f, .dict c], args, kw] => do
      let key := .tuple [args, .tuple (kw.pairs.map fun (k, v) => .tuple [k, v])]
      if let some v := lookupKey key (<- cellPairs c) then return v
      let v <- callValue f (<- itemsOf args) kw.pairs
      setItem (.dict c) key v
      pure v
    | _ => badType,
  meth4 "CallCache.call" "fn, args=(), key=None" fun r f args key => do
    let args <- iterate args
    let key := if key.isNull then .tuple [f, .tuple args] else key
    let cache <- field r "cache"
    if !(<- containsValue key cache) then setItem cache key (<- callValue f args [])
    itemOf cache key,
  meth1 "Scratchpad.clear" "" fun (r : RecordId) => modify fun s =>
    { s with records := s.records.modify r.idx fun x => { x with fields := [] } },
  meth2 "partial.__call__" "*names" fun r (names : Values) => do
    let f <- field r "fn"
    if let .int n :: _ := names then return <- newList (<- (List.range n.toNat).mapM fun _ => callValue f [] [])
    let all := if let [x] := names then x else .tuple names
    if (<- lengthOf all) == 1 then callValue f [all] []
    else newList (<- (<- iterate all).mapM fun x => callValue f [x] []) ]
where
  joined (a b : Value) : M Value := do
    let v <- newMapping "OrderedUpdates" .null []
    for x in [a, b] do let _ <- callMethod v "update" [x]
    pure v

/-! ## Association lists -/

def valueKeying : M (Keying Value) := fun k s =>
  let eq a b := match valuesEqual a b k s with
    | .ok r _ => r
    | .error .. => false
  .ok ⟨hashable 40, eq⟩ s
where
  hashable : Nat -> Value -> Bool
    | 0, _ => true
    | fuel + 1, v => match v with
      | .list _ | .dict _ | .set _ | .orderedSet _ | .array _ | .slice .. => false
      | .tuple xs => xs.all (hashable fuel)
      | _ => true

def withAssocs (f : Keying Value -> AssocList Value Value -> M (AssocList Value Value × Value)) : M Value := do
  let .dict d <- field r "_dict" | noAttr
  let .list l <- field r "_list" | noAttr
  let (m, x) <- f (<- valueKeying) ⟨<- cellPairs d, <- arg (.list l)⟩
  setCell d (.map m.hashed.toArray)
  setCell l (.seq (m.listed.map fun (k, v) => .tuple [k, v]).toArray)
  setField r "text" s!"AssocList({<- reprOf (.dict d)}, {<- reprOf (.list l)})"
  pure x

def assocListMethods : Table Callable := [
  meth2 "AssocList.__getitem__" "item" fun a k => withAssocs a fun key m => return (m, (m.get? key k).getD .null),
  meth3 "AssocList.get" "item, default" fun a k d => withAssocs a fun key m => return (m, (m.get? key k).getD d),
  meth3 "AssocList.__setitem__" "item, value" fun a k v => withAssocs a fun key m => return (m.set key k v, .null),
  meth2 "AssocList.__delitem__" "item" fun a k => withAssocs a fun key m => do
    let some m := m.remove? key k | fail .key (<- reprOf k)
    return (m, .null),
  meth2 "AssocList.discard" "item" fun a k => withAssocs a fun key m => return (m.discard key k, .null),
  meth1 "AssocList.clear" "" fun a => withAssocs a fun _ _ => return ({}, .null) ]

def orderOf (a b : Value) : M Value := do
  if <- truthOf (<- operate .gt a b) then return 1
  return .int (if <- truthOf (<- operate .lt a b) then -1 else 0)

local instance : BEq Value := ⟨Value.isKey⟩

def readiest [Inhabited α] (value : α -> Value) (xs : List α) : α :=
  xs.foldl (fun a b => match value a, value b with
    | .int i, .int j => if j < i then b else a
    | _, _ => a) (xs.headD default)

/-- Sorts values by their places; a value that comes again has the place of the first. -/
def sortedBy (xs cmps : Values) : M Value := do
  let at_ i := xs.getD i .null
  let places := (List.range xs.length).filter fun i => xs.findIdx (· == at_ i) == i
  let some l <- Schedule.posort (readiest at_) places (cmps.map fun c i j => do
    truthOf (<- operate .lt (<- callValue c [at_ i, at_ j] []) 0)) | failValue "Input has cycles"
  newList (l.map at_)

private def edgesOf (v : Value) : M (List (Value × Values)) := do
  (<- pairsOf v).mapM fun (k, l) => do pure (k, <- iterate l)

def scheduleMethods : Table Callable := [
  meth "tuple.depends" "pair" fun
    | [_, .tuple [.node n, .node m]] => return (<- getArena).dependsOn n m
    | _ => noAttr,
  meth "tuple.dependence" "a, b" fun
    | [_, .node n, .node m] => return ((<- getArena).dependence n m)
    | _ => noAttr,
  meth "tuple.key_cmp" "a, b" fun
    | [.tuple [key], a, b] => do orderOf (<- callValue key [a] []) (<- callValue key [b] [])
    | _ => badType,
  meth "tuple.schedule" "fgraph" fun
    | [.tuple cmps, .graph g] => do
      let x <- graph g
      sortedBy ((<- getArena).listOfNodes x.inputs x.outputs |>.map .node) cmps
    | _ => noAttr ]

def renderText (values : Table Value) : Nat -> List Char -> M (Except String String)
  | 0, _ | _, [] => return .ok ""
  | fuel + 1, '%' :: '%' :: rest => do return (<- renderText values fuel rest).map ("%" ++ ·)
  | fuel + 1, '%' :: '(' :: rest => do
    let name := .ofList (rest.takeWhile (· != ')'))
    match rest.drop (name.length + 1), values.lookup name with
    | _, none => return .error (if rest.contains ')' then s!"'{name}'" else "incomplete format key")
    | 's' :: more, some v => do return (<- renderText values fuel more).map ((<- textOf v) ++ ·)
    | 'd' :: more, some v =>
      let some i := v.int? | return .error s!"%d format: a real number is required, not {<- classNameOf v}"
      return (<- renderText values fuel more).map (toString i ++ ·)
    | [], some _ => return .error "incomplete format"
    | c :: _, some _ => return .error s!"unsupported format character '{c}'"
  | fuel + 1, c :: rest => do return (<- renderText values fuel rest).map (c.toString ++ ·)

def flattened : Nat -> Value -> M Values
  | 0, _ => outOfFuel
  | fuel + 1, v => do
    if v matches .tuple _ | .list _ | .set _ then (<- itemsOf v).flatMapM (flattened fuel) else pure [v]

def levels : Nat -> List (Value × Values) -> Values -> Values -> Values
  | 0, _, _, done => done
  | fuel + 1, needs, ready, done =>
    let done := done ++ ready
    let next := (needs.filter fun (k, l) => !done.any k.isKey && l.any (ready.any ·.isKey) && l.all (done.any ·.isKey)).map (·.1)
    levels fuel needs next done

def macros (pairs : Table String) : Value :=
  .tuple [("\n".intercalate (pairs.map fun (k, v) => s!"#define {k} {v}")),
    ("\n".intercalate (pairs.map fun (k, _) => s!"#undef {k}"))]

def quotedLines : String := s.replace "\n" " \\\n"

def collectionEntries : Table ApiEntry := [
  mapping "misc.frozendict" "frozendict" "items", mapping "misc.frozendict" "FrozenOrderedDict" "items",
  mapping "updates" "OrderedUpdates" "key",
  cls3 "utils.DefaultOrderedDict" "default_factory=None, items=None, **kwargs" fun f d kw => do
    if !(f matches .null | .api _ | .lambda .. | .method .. | .cls _) then failType "first argument must be callable"
    newMapping "DefaultOrderedDict" d kw.pairs f,
  cls "graph.callcache.CallCache" "filename=None" fun _ => do newRecord "CallCache" [("cache", <- newDict [])],
  cls "pathparse.PathParser" "*paths" fun _ => newRecord "PathParser" [],
  cls "graph.utils.Scratchpad" "" fun _ => newRecord "Scratchpad" [],
  cls2 "graph.utils.ValidatingScratchpad" "attr, attr_filter" fun a f =>
    newRecord "ValidatingScratchpad" [("attr", a), ("attr_filter", f)],
  fn1 "graph.utils.toposort" "prereqs_d" fun d => do
    let needs <- edgesOf d
    let l := levels needs.length needs ((needs.filter (·.2.isEmpty)).map (·.1)) []
    if l.length != needs.length then
      fail .generic ("Cannot sort topologically: there might be cycles, prereqs_d does not have a key for each element or "
        ++ "some orderings contain invalid elements.")
    newList l,
  fn1 "utils.memoize" "f" fun f => do return .method (.tuple [f, <- newDict []]) "memoized",
  fn1 "utils.apply_across_args" "*fns" fun (fs : Values) => do
    let ps <- fs.mapM fun f => newRecord "partial" [("fn", f)]
    if let [p] := ps then return p else newList ps,
  fn1 "utils.uniq" "seq" fun (xs : Values) => do
    newList (<- xs.foldlM (fun l x => do return if <- l.anyM (valuesEqual · x) then l else l ++ [x]) []),
  fn2 "utils.difference" "seq1, seq2" fun (xs : Values) ys => do
    newList (<- xs.filterM fun x => do return !(<- containsValue x ys)),
  fn1 "utils.to_return_values" "values" fun v => do if (<- lengthOf v) == 1 then itemOf v 0 else return v,
  fn1 "utils.from_return_values" "values" fun v => if v matches .list _ | .tuple _ then return v else newList [v],
  fn1 "tensor.utils.as_list" "obj" fun v => do newList ((<- members? v).getD [v]),
  fn1 "utils.flatten" "a" fun v => do newList (<- flattened 100 v),
  fn3 "misc.safe_asarray._asarray" "a, dtype, order=None" fun a d _ => do
    arrayFrom a (if let .str "floatX" := d then (<- settingText "floatX") else d) .null,
  fn "misc.may_share_memory.may_share_memory" "a, b, raise_other_type=True" fun
    | [.array a, .array b, _] => callMethod (.type (.ofTensor .float64 [])) "may_share_memory" [a, b]
    | [a, b, r] => do
      if !([a, b].all fun v => v matches .array _ | .sparse _) && (<- truthOf r) then
        failType "may_share_memory support only ndarray and scipy.sparse or GpuArray type"
      pure false
    | _ => badType,
  fn1 "graph.op.lquote_macro" "txt" fun s => return quotedLines s,
  fn1 "graph.op.get_sub_macros" "sub" fun d => do
    let .str f <- itemOf d "fail" | noAttr
    let params := (lookupKey "params" (<- pairsOf d)).bind Value.str?
    return macros (("FAIL", quotedLines f) :: params.toList.map ("PARAMS", ·)),
  fn2 "graph.op.get_io_macros" "inputs, outputs" fun (is os : List String) =>
    let named s l : Table String := l.zipIdx.map fun (x, i) => (s!"{s}_{i}", x)
    return macros (named "INPUT" is ++ named "OUTPUT" os),
  fn1 "misc.ordered_set.OrderedSet" "iterable=None" fun v => do
    newOrderedSet (<- if v.isNull then pure [] else orderedItems v),
  cls "graph.utils.AssocList" "" fun _ => do
    newRecord "AssocList" [("_dict", <- newDict []), ("_list", <- newList []), ("text", ("AssocList(" ++ braced "" ++ ", [])"))],
  fn2 "utils.cmp" "x, y" orderOf,
  fn "graph.sched.make_depends" "" fun _ => return .method (.tuple []) "depends",
  fn "graph.sched.make_dependence_cmp" "" fun _ => return .method (.tuple []) "dependence",
  fn1 "graph.sched.key_to_cmp" "key" fun k => return .method (.tuple [k]) "key_cmp",
  fn1 "graph.sched.sort_schedule_fn" "*cmps" fun cmps =>
    return .method (.tuple (.method (.tuple []) "dependence" :: cmps)) "schedule",
  fn2 "graph.sched.posort" "nodes, *cmps" sortedBy,
  fn3 "graph.sched.sort_apply_nodes" "inputs, outputs, cmps" fun i o cmps => do
    sortedBy ((<- getArena).listOfNodes i o |>.map .node) cmps,
  fn1 "graph.sched.reverse_dict" "d" fun d => do
    newDict ((Schedule.reverse (<- edgesOf d)).map fun (k, l) => (k, .tuple l)),
  fn1 "graph.sched._toposort" "edges" fun d => do
    let some l := Schedule.toposort (readiest id) (<- edgesOf d) | failValue "Input has cycles"
    newList l,
  fn2 "misc.strutil.render_string" "string, sub" fun t d => do
    let values <- (<- pairsOf d).mapM fun (k, v) => do return (<- strArg k, v)
    let cs := (<- strArg t).toList
    let render l := renderText values (l.length + 1) l
    match <- render cs with
    | .ok s => pure s
    | .error e =>
      for i in List.range (cs.length + 1) do
        if let .error f <- render (cs.take i) then
          if f == e then fail .generic s!"{String.ofList (cs.take i)}<<<< caused exception {e}"
      unmet,
  fn1 "misc.strutil.strip_leading_white_space" "line" fun l => return unindented l,
  fn1 "misc.strutil.pretty_format" "string" fun t => do
    let count l c := (l.toList.filter (· == c)).length
    let (lines, _) := ((<- strArg t).splitOn "\n").foldl (fun ((ls, k) : List String × Nat) l =>
      let l := unindented l
      let k := k - count l '}'
      (ls ++ [.ofList (.replicate (4 * k) ' ') ++ l], k + count l '{')) ([], 0)
    return "\n".intercalate lines ]
where
  mapping (path name first : String) := cls2 (path ++ "." ++ name) (first ++ "=None, **kwargs") fun d kw => newMapping name d kw.pairs
  unindented (l : String) : String := (l.dropWhile fun c => c == ' ' || c == '\t').toString

end TensorGraph
