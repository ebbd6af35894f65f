/-! # The layout of a loop -/

namespace TensorGraph

/-- For each input, the outputs that depend on it. -/
abbrev Links := List (List Bool)

/-- How many operands of each kind a loop has, and the taps of its states. -/
structure LoopLayout where
  nSeqs : Nat := 0
  taps : List (List Int) := []
  nMitMot : Nat := 0
  nMitMotOuts : Nat := 0
  outTaps : List (List Int) := []
  nMitSot : Nat := 0
  nSitSot : Nat := 0
  nShared : Nat := 0
  nNitSot : Nat := 0
  asWhile : Bool := false
deriving BEq, Inhabited

namespace LoopLayout

def cut (xs : List α) (start count : Nat) : List α := (xs.drop start).take count

def split (xs : List α) : List Nat -> List (List α)
  | [] => []
  | n :: ns => xs.take n :: split (xs.drop n) ns

variable (l : LoopLayout) (outs ins : List α) (ps : List Place) (feed : Nat -> Option Nat) (taps : List Int) (t : Links) (n : Nat)

def tapCount (k : Nat) : Nat := ((l.taps.take k).map List.length).foldl (· + ·) 0
def outTapCount (k : Nat) : Nat := ((l.outTaps.take k).map List.length).foldl (· + ·) 0
def writtenTaps : Nat := l.outTapCount l.outTaps.length
def nStates : Nat := l.nMitMot + l.nMitSot + l.nSitSot
def nOuts : Nat := l.nStates + l.nNitSot + l.nShared

/-! ## Inner inputs -/

def innerSeqs : List α := ins.take l.nSeqs
def innerMitMot : List α := cut ins l.nSeqs (l.tapCount l.nMitMot)

def innerMitSot : List α :=
  cut ins (l.nSeqs + l.tapCount l.nMitMot) (l.tapCount (l.nMitMot + l.nMitSot) - l.tapCount l.nMitMot)

def sitSotStart : Nat := l.nSeqs + l.tapCount (l.nMitMot + l.nMitSot)
def innerSitSot : List α := cut ins l.sitSotStart l.nSitSot
def innerShared : List α := cut ins (l.sitSotStart + l.nSitSot) l.nShared
def innerOthers : List α := ins.drop (l.sitSotStart + l.nSitSot + l.nShared)

/-! ## Inner outputs -/

def innerMitMotOuts : List α := outs.take l.writtenTaps
def innerMitSotOuts : List α := cut outs l.writtenTaps l.nMitSot
def innerSitSotOuts : List α := cut outs (l.nMitSot + l.writtenTaps) l.nSitSot

def innerNitSotOuts : List α :=
  cut outs (l.nMitSot + l.writtenTaps + l.nSitSot) l.nNitSot

def innerSharedOuts : List α :=
  cut outs (l.nMitSot + l.writtenTaps + l.nSitSot + l.nNitSot) l.nShared

def condition? : Option α := if l.asWhile then outs.getLast? else none

/-! ## Outer inputs -/

def outerSeqs : List α := cut ins 1 l.nSeqs
def outerMitMot : List α := cut ins (1 + l.nSeqs) l.nMitMot
def outerMitSot : List α := cut ins (1 + l.nSeqs + l.nMitMot) l.nMitSot
def outerSitSot : List α := cut ins (1 + l.nSeqs + l.nMitMot + l.nMitSot) l.nSitSot
def outerStates : List α := cut ins (1 + l.nSeqs) l.nStates
def outerShared : List α := cut ins (1 + l.nSeqs + l.nStates) l.nShared
def outerNitSot : List α := cut ins (1 + l.nSeqs + l.nStates + l.nShared) l.nNitSot
def outerOthers : List α := ins.drop (1 + l.nSeqs + l.nStates + l.nNitSot + l.nShared)

/-! ## Outer outputs -/

def outerMitMotOuts : List α := outs.take l.nMitMot
def outerMitSotOuts : List α := cut outs l.nMitMot l.nMitSot
def outerSitSotOuts : List α := cut outs (l.nMitMot + l.nMitSot) l.nSitSot
def outerNitSotOuts : List α := cut outs l.nStates l.nNitSot
def outerSharedOuts : List α := cut outs (l.nStates + l.nNitSot) l.nShared

/-! ## Taps -/

def mitMotTaps : List (List Int) := l.taps.take l.nMitMot
def mitMotOutTaps : List (List Int) := l.outTaps.take l.nMitMot
def mitSotTaps : List (List Int) := cut l.taps l.nMitMot l.nMitSot

def leastTap : Int := match taps with
  | [] => 0
  | t :: ts => ts.foldl min t

def greatestTap : Int := match taps with
  | [] => 0
  | t :: ts => ts.foldl max t

def minTaps : List Int := l.taps.map leastTap ++ .replicate l.nNitSot 0

/-! ## Places -/

/-- Positions that belong together: an outer input, the inner inputs it feeds, the inner outputs of the
same state, and its outer result. -/
structure Place where
  outerIn : Nat
  (innerIns innerOuts : List Nat)
  outerOut : Option Nat

def span (start count : Nat) : List Nat := (List.range count).map (start + ·)
def writes (state : Nat) : Nat := if state < l.nMitMot then (l.outTaps.getD state []).length else 1

/-- How many inner outputs the states before one have. -/
def written (state : Nat) : Nat := ((List.range state).map l.writes).foldl (· + ·) 0

def statePlaces : List Place := l.taps.zipIdx.map fun (ts, k) =>
  ⟨1 + l.nSeqs + k, span (l.nSeqs + l.tapCount k) ts.length, span (l.written k) (l.writes k), some k⟩

/-- Where the states end among the inner inputs, and among the outer ones. -/
def tapsEnd : Nat := l.nSeqs + l.tapCount l.taps.length
def statesEnd : Nat := 1 + l.nSeqs + l.taps.length

def places : List Place :=
  let states := l.taps.length
  let done := l.written states
  [⟨0, [], [], none⟩]
    ++ (List.range l.nSeqs).map (fun i => ⟨1 + i, [i], [], none⟩)
    ++ l.statePlaces
    ++ (List.range l.nNitSot).map (fun i => ⟨l.statesEnd + l.nShared + i, [], [done + i], some (states + i)⟩)
    ++ (List.range l.nShared).map (fun i =>
        ⟨l.statesEnd + i, [l.tapsEnd + i], [done + l.nNitSot + i], some (states + l.nNitSot + i)⟩)
    ++ (List.range (n - (l.tapsEnd + l.nShared))).map fun i =>
        ⟨l.statesEnd + l.nShared + l.nNitSot + i, [l.tapsEnd + l.nShared + i], [], none⟩

/-- The four lists that a place has positions in. -/
inductive Side
  | outerIn | innerIn | innerOut | outerOut
deriving BEq

def Place.on (p : Place) : Side -> List Nat
  | .outerIn => [p.outerIn]
  | .innerIn => p.innerIns
  | .innerOut => p.innerOuts
  | .outerOut => p.outerOut.toList

/-- For each position on one side, the positions on another one. -/
def table (source target : Side) : List (Nat × List Nat) := ps.flatMap fun p => (p.on source).map (·, p.on target)

def placeOfOuterOut? (o : Nat) : Option Place := ps.find? fun p => p.outerOut == some o
def placeOfOuterIn? (i : Nat) : Option Place := ps.find? fun p => p.outerIn == i
def placeOfInnerIn? (i : Nat) : Option Place := ps.find? fun p => p.innerIns.contains i
def entry (i o : Nat) : Bool := (t.getD i []).getD o false

def touches (inner : Links) (a b : Place) : Bool :=
  b.innerOuts.any fun o => a.innerIns.any fun i => entry inner i o

def extendColumn (o j : Nat) : Links :=
  match feed j with
  | none => t
  | some i => if entry t i o then t.map (fun row => if row.getD j false then row.set o true else row) else t

def extendColumns (pairs : List (Nat × Nat)) : Links := pairs.foldl (fun t (o, j) => extendColumn feed t o j) t

def closePass (t : Links) : Links := extendColumns feed t ((List.range n).flatMap fun o => (List.range n).map (o, ·))

def closeConnections (t : Links) : Links := Nat.repeat (closePass feed n) n t

/-- The outer input that starts the state of a result. -/
def fedBy (o : Nat) : Option Nat := (placeOfOuterOut? ps o).map (·.outerIn)

/-- What one step connects. -/
def direct (nIns nOuts : Nat) (inner : Links) : Links :=
  (List.range nIns).map fun i => (List.range nOuts).map fun o =>
    match placeOfOuterIn? ps i, placeOfOuterOut? ps o with
    | some a, some b => touches inner a b
    | _, _ => false

def connections (nInner nIns nOuts : Nat) (inner : Links) : Links :=
  let ps := l.places nInner
  closeConnections (fedBy ps) nOuts (direct ps nIns nOuts inner)

end LoopLayout

end TensorGraph

/-! ## Loops with fewer results -/

namespace TensorGraph.LoopLayout

def resultInputs (l : LoopLayout) (ins : List α) : List (List α) :=
  let taps := (List.range l.nStates).map fun k => cut ins (l.nSeqs + l.tapCount k) (l.taps.getD k []).length
  let start := l.nSeqs + l.tapCount l.nStates
  taps ++ .replicate l.nNitSot [] ++ (List.range l.nShared).map fun k => cut ins (start + k) 1

def settleNeeded [BEq α] (reads needs : Nat -> List α) : Nat -> List Nat -> List α -> List Nat
  | 0, open_, _ => open_
  | fuel + 1, open_, needed =>
    let hit := open_.filter fun c => (reads c).any needed.contains
    if hit.isEmpty then open_
    else settleNeeded reads needs fuel (open_.filter fun c => !hit.contains c) (needed ++ hit.flatMap needs)

def removable [BEq α] (reads needs : Nat -> List α) (n : Nat) (candidates : List Nat) : List Nat × List Nat :=
  let needed := ((List.range n).filter fun i => !candidates.contains i).flatMap needs
  let gone := settleNeeded reads needs (candidates.length + 1) candidates needed
  (candidates.filter fun c => !gone.contains c, gone)

/-- A loop without some of its results. -/
structure Compressed (α : Type) where
  layout : LoopLayout
  (innerIns innerOuts outerIns : List α)
  moved : List (Nat × Nat)

def pick (keep : Nat -> Bool) (start : Nat) (xs : List α) : List α :=
  (xs.zipIdx.filter fun (_, i) => keep (start + i)).map (·.1)

def kept (keep : Nat -> Bool) (start count : Nat) : Nat := ((List.range count).filter fun i => keep (start + i)).length

def compress (l : LoopLayout) (gone : List Nat) (innerIns innerOuts outerIns : List α) : Compressed α :=
  let keep i := !gone.contains i
  let afterStates := l.nStates
  let afterNit := afterStates + l.nNitSot
  let taps := pick keep 0 l.taps
  let outTaps := pick keep 0 (l.outTaps.take l.nMitMot)
  let stateIns := (pick keep 0 (split (innerIns.drop l.nSeqs) (l.taps.map List.length))).flatten
  let read := l.nSeqs + l.tapCount l.nStates
  let mitMotOuts := (pick keep 0 (split innerOuts (l.mitMotOutTaps.map List.length))).flatten
  let rest := innerOuts.drop (l.outTapCount l.nMitMot)
  let otherOuts := pick keep l.nMitMot (rest.take (l.nMitSot + l.nSitSot + l.nNitSot + l.nShared))
  let condition := if l.asWhile then cut rest (l.nMitSot + l.nSitSot + l.nNitSot + l.nShared) 1 else []
  let outs := mitMotOuts ++ otherOuts ++ condition
  let left := (List.range l.nOuts).filter keep
  { layout :=
      { l with
        taps, outTaps
        nMitMot := kept keep 0 l.nMitMot
        nMitMotOuts := mitMotOuts.length
        nMitSot := kept keep l.nMitMot l.nMitSot
        nSitSot := kept keep (l.nMitMot + l.nMitSot) l.nSitSot
        nNitSot := kept keep afterStates l.nNitSot
        nShared := kept keep afterNit l.nShared }
    innerIns := innerIns.take l.nSeqs ++ stateIns ++ pick keep afterNit (cut innerIns read l.nShared)
      ++ innerIns.drop (read + l.nShared)
    innerOuts := outs
    outerIns := outerIns.take (l.nSeqs + 1) ++ pick keep 0 (l.outerStates outerIns)
      ++ pick keep afterNit (l.outerShared outerIns) ++ pick keep afterStates (l.outerNitSot outerIns)
      ++ l.outerOthers outerIns
    moved := left.zipIdx ++
      if l.asWhile then [(l.outTapCount l.nMitMot + l.nMitSot + l.nSitSot + l.nNitSot + l.nShared, outs.length - 1)] else [] }

end TensorGraph.LoopLayout
