import TensorGraph.Array.Elementwise
import TensorGraph.Core.Value

/-! # Compressed matrices -/

namespace TensorGraph.SparseMatrix

variable (f : SparseFormat) (m : SparseMatrix) (d : DType) (ms : List SparseMatrix) (a : NdArray) (rows cols : Nat)

def byColumn : Bool := m.format == .csc
def outer : Nat := if m.byColumn then m.cols else m.rows

def line (i : Nat) : List (Nat × Elem) :=
  let lo := m.indptr.getD i 0
  (List.range (m.indptr.getD (i + 1) 0 - lo)).map fun k => (m.indices.getD (lo + k) 0, m.data.getD (lo + k) default)

def lines : List (List (Nat × Elem)) := (List.range m.outer).map m.line

variable (ls : List (List (Nat × Elem)))

def ofLines : SparseMatrix :=
  let all := ls.flatten
  ⟨f, d, rows, cols, (all.map (·.2)).toArray, (all.map (·.1)).toArray,
    ls.foldl (fun acc l => acc.push (acc.back?.getD 0 + l.length)) #[0]⟩

def withLines (d : DType := m.dtype) : SparseMatrix :=
  ofLines m.format d m.rows m.cols ls

def dataArray : NdArray := ⟨m.dtype, [m.data.size], m.data, 0⟩
def withData : SparseMatrix := { m with dtype := a.dtype, data := a.data }
def cast (m : SparseMatrix) : SparseMatrix := m.withData (m.dataArray.cast d)

def transpose : SparseMatrix :=
  { m with format := (if m.byColumn then .csr else .csc), rows := m.cols, cols := m.rows }

def entries : List (Nat × Nat × Elem) :=
  m.lines.zipIdx.flatMap fun (l, i) => l.map fun (j, e) => if m.byColumn then (j, i, e) else (i, j, e)

def plus (a b : Elem) : Elem := (ScalarKind.add.eval d [a, b]).toOption.getD a
def times (a b : Elem) : Elem := (ScalarKind.mul.eval d [a, b]).toOption.getD a

def toArray : NdArray :=
  let data := m.entries.foldl (fun acc (i, j, e) =>
    acc.modify (i * m.cols + j) fun x => plus m.dtype x e) (.replicate (m.rows * m.cols) (.zero m.dtype))
  ⟨m.dtype, [m.rows, m.cols], data, 0⟩

def ofArray : SparseMatrix :=
  let rows := a.shape.getD 0 0
  let cols := a.shape.getD 1 0
  let (outer, inner) := if f == .csc then (cols, rows) else (rows, cols)
  let entry i j := if f == .csc then a.at' (j * cols + i) else a.at' (i * cols + j)
  ofLines f a.dtype rows cols ((List.range outer).map fun i =>
    (List.range inner).filterMap fun j => let e := entry i j; if e.truthy then some (j, e) else none)

def insertSorted (join : Elem -> Elem -> Elem) (j : Nat) (e : Elem) : List (Nat × Elem) -> List (Nat × Elem)
  | [] => [(j, e)]
  | (k, x) :: rest =>
    if j < k then (j, e) :: (k, x) :: rest
    else if j == k then (k, join x e) :: rest
    else (k, x) :: insertSorted join j e rest

def ofEntries (es : List (Nat × Nat × Elem)) : SparseMatrix :=
  let outer := if f == .csc then cols else rows
  let table := es.foldl (fun (acc : Array (List (Nat × Elem))) (i, j, e) =>
    if f == .csc then acc.modify j (insertSorted (plus d) i e) else acc.modify i (insertSorted (plus d) j e)) (.replicate outer [])
  ofLines f d rows cols table.toList

def toFormat : SparseMatrix :=
  if m.format == f then m
  else if m.format != .csc && f != .csc then { m with format := f }
  else
    let outer := if f == .csc then m.cols else m.rows
    let table := m.entries.foldl (fun (acc : Array (List (Nat × Elem))) (i, j, e) =>
      if f == .csc then acc.modify j ((i, e) :: ·) else acc.modify i ((j, e) :: ·)) (.replicate outer [])
    ofLines f m.dtype m.rows m.cols (table.toList.map .reverse)

def isCanonical : Bool := m.lines.all fun l => (l.zip (l.drop 1)).all fun (a, b) => a.1 < b.1
def sorted : SparseMatrix := m.withLines (m.lines.map fun l => l.mergeSort fun a b => a.1 <= b.1)
def dropZeros : SparseMatrix := m.withLines (m.lines.map fun l => l.filter fun (_, e) => e.truthy)

def accumulate (table : List (Nat × Elem)) (es : List (Nat × Elem)) : List (Nat × Elem) :=
  es.foldl (fun t (j, e) => match t.lookup j with
    | some _ => t.map fun (k, x) => if k == j then (k, plus d x e) else (k, x)
    | none => t ++ [(j, e)]) table

def mergeLine (f : Elem -> Elem -> Elem) (isOrdered : Bool) (a b : List (Nat × Elem)) : List (Nat × Elem) :=
  let x := accumulate d [] a
  let y := accumulate d [] b
  let zero := .zero d
  let places := (x ++ y).map (·.1) |>.eraseDups
  let places := if isOrdered then places.mergeSort (· <= ·) else places.reverse
  (places.map fun j => (j, f ((x.lookup j).getD zero) ((y.lookup j).getD zero))).filter fun (_, e) => e.truthy

def merge (f : Elem -> Elem -> Elem) (d out : DType) (a b : SparseMatrix) : SparseMatrix :=
  let b := b.toFormat a.format
  let isOrdered := a.isCanonical && b.isCanonical
  a.withLines (((a.cast d).lines.zip (b.cast d).lines).map fun (x, y) => mergeLine d f isOrdered x y) out

def add (a b : SparseMatrix) : SparseMatrix :=
  let d := a.dtype.promote b.dtype
  merge (plus d) d d a b

def multiply (a b : SparseMatrix) : SparseMatrix :=
  let d := a.dtype.promote b.dtype
  merge (times d) d d a b

def compare (k : ScalarKind) (a b : SparseMatrix) : SparseMatrix :=
  merge (fun x y => .int (if k.compare x y then 1 else 0)) (a.dtype.promote b.dtype) .bool a b

def complement : SparseMatrix :=
  let a := m.toArray
  ofArray m.format ⟨.bool, a.shape, a.data.map fun e => .int (if e.truthy then 0 else 1), 0⟩

def timesArray : NdArray :=
  let d := m.dtype.promote a.dtype
  let a := a.cast d
  let width := shapeSize (a.shape.drop 1)
  let data := (m.cast d).entries.foldl (fun acc (i, j, v) =>
    (List.range width).foldl (fun acc k =>
      acc.modify (i * width + k) fun x => plus d x (times d v (a.at' (j * width + k)))) acc)
    (.replicate (m.rows * width) (.zero d))
  ⟨d, m.rows :: a.shape.drop 1, data, 0⟩

def sumType : DType := if d.isUnsigned then .uint64 else if d == .bool || d.isInteger then .int64 else d

def sumAlong (overRows : Bool) : NdArray :=
  let d := sumType m.dtype
  let n := if overRows then m.cols else m.rows
  let data := (m.cast d).entries.foldl (fun acc (i, j, v) =>
    acc.modify (if overRows then j else i) fun x => plus d x v) (.replicate n (.zero d))
  ⟨d, [n], data, 0⟩

def sumAll : NdArray :=
  let s := m.sumAlong false
  .ofElem s.dtype (s.data.foldl (plus s.dtype) (.zero s.dtype))

def diagonal : NdArray :=
  let n := min m.rows m.cols
  let a := m.toArray
  ⟨m.dtype, [n], (Array.range n).map fun i => a.at' (i * m.cols + i), 0⟩

def select (rows cols : List Nat) : SparseMatrix :=
  let (outs, ins) := if m.byColumn then (cols, rows) else (rows, cols)
  ofLines m.format m.dtype rows.length cols.length (outs.map fun i =>
    (m.line i).flatMap fun (j, e) => ins.zipIdx.filterMap fun (k, p) => if k == j then some (p, e) else none)

def at_ (i j : Nat) : Elem :=
  let (o, k) := if m.byColumn then (j, i) else (i, j)
  (m.line o).foldl (fun acc (p, e) => if p == k then plus m.dtype acc e else acc) (.zero m.dtype)

def beside : SparseMatrix :=
  let (cols, es) := ms.foldl (fun (off, es) m => (off + m.cols, es ++ (m.cast d).entries.map fun (i, j, e) => (i, off + j, e)))
    (0, [])
  ofEntries f d ((ms.map (·.rows)).headD 0) cols es

def above : SparseMatrix :=
  let (rows, es) := ms.foldl (fun (off, es) m => (off + m.rows, es ++ (m.cast d).entries.map fun (i, j, e) => (off + i, j, e)))
    (0, [])
  ofEntries f d rows ((ms.map (·.cols)).headD 0) es

def mapEntries (f : Nat -> Nat -> Elem -> Elem) : SparseMatrix :=
  (m.cast d).withLines ((m.cast d).lines.zipIdx.map fun (l, i) => l.map fun (j, e) =>
    (j, if m.byColumn then f j i e else f i j e))

def differences (a b : SparseMatrix) : List Float :=
  let d := a.add (b.mapEntries b.dtype fun _ _ e => (ScalarKind.neg.eval b.dtype [e]).toOption.getD e)
  d.data.toList.map fun e => ((ScalarKind.abs.eval d.dtype [e]).toOption.getD e).toFloat

def distance (a b : SparseMatrix) : Float := (a.differences b).foldl (· + ·) 0

def isClose (a b : SparseMatrix) : Bool :=
  a.format == b.format && a.dtype == b.dtype && a.rows == b.rows && a.cols == b.cols
    && a.distance b < 1e-6 * .ofNat a.data.size

end TensorGraph.SparseMatrix
