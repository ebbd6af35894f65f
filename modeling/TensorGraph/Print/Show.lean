import TensorGraph.Graph.Change

/-! # Listings of values -/

namespace TensorGraph

def loopGraph (v : VarId) : M InnerGraph := do
  let some (.scan id _, ins) <- made? v | pure default
  let s <- get
  let l := s.loops.getD id default
  let (inner, outs) := match l.compiled with
    | some f =>
      let g := s.graphs.getD (s.functions.getD f.idx default).graph.idx default
      (g.inputs, g.outputs)
    | none => (l.inputs, l.outputs)
  let places := l.layout.places l.inputs.length
  let pairs := inner.zipIdx.filterMap fun (x, i) => do
    return (x, <- ins[(<- LoopLayout.placeOfInnerIn? places i).outerIn]?)
  return (outs, pairs)

def graphOrder (g : GraphId) : M (Std.HashMap NodeId Nat) := do
  return .ofList ((<- graphToposort g).zipIdx.map fun (n, i) => (n, i))

def listingRoots : Nat -> Value -> M (List (VarId × ListingFacts))
  | 0, _ => outOfFuel
  | fuel + 1, v => do
    match v with
    | .var x => pure [(x, {})]
    | .node n => return (<- outsOf n).map fun x => (x, {})
    | .graph g => ofGraph g
    | .function f => ofGraph ((<- get).functions.getD f.idx default).graph
    | .tuple _ | .list _ => many fuel (<- itemsOf v)
    | _ => failType s!"('debugprint cannot print an object of this type', {<- reprOf v})"
where
  ofGraph (g : GraphId) : M (List (VarId × ListingFacts)) := do
    let order <- graphOrder g
    return (<- graph g).outputs.map fun x => (x, { order := some order })
  many (fuel : Nat) : Values -> M (List (VarId × ListingFacts))
    | [] => pure []
    | x :: xs => do return (<- listingRoots fuel x) ++ (<- many fuel xs)

def showValue (style : ListingStyle) (v : Value) : M String := do
  return (<- listGraphs style loopGraph (<- listingRoots 10 v)).text

def showGraph (g : GraphId) : M String := do
  let style := { types := true }
  try showValue style g
  catch _ => showValue style (.tuple (valuesOf (<- graph g).outputs))

end TensorGraph
