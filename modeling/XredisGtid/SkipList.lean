import XredisGtid.Gno
import XredisGtid.Memory

/-!
# The interval skip list

`gtidIntervalSkipList` of `gtid.c`: nodes in an arena, linked at up to 32 levels
through their `forwards` arrays, with a sentinel `header` that is never an interval
of the set.  Node fields are assigned in the order the source assigns them; an
assertion that fails, or a dereference of `NULL`, is the result `none`.

The searches at the start of `gtidIntervalSkipListAdd` and
`gtidIntervalSkipListRemove` fill the arrays `lefts` and `rights`; they differ only
in the condition under which they move forward (`predecessors`).  The creation of a
node in `gtidIntervalSkipListAdd` and the split in `gtidIntervalSkipListRemove`
link the new node by the same loop (`insertNode`), and both functions free a run of
nodes and lower `level` by the same loops (`freeRun`, `shrinkLevel`).
-/
namespace XredisGtid
open Memory

def GTID_INTERVAL_SKIPLIST_MAXLEVEL : Nat := 32

structure GtidIntervalNode where
  level : Nat
  start : Int
  «end» : Int
  forwards : List (Option Addr)
deriving DecidableEq, Repr

def gtidIntervalNodeNew (level : Nat) (start «end» : Int) : GtidIntervalNode where
  level := level
  start := start
  «end» := «end»
  forwards := List.replicate level none

def gtidIntervalNodeGnoCount (interval : GtidIntervalNode) : Int :=
  interval.end - interval.start + 1

/-- The number of levels drawn: one more for every `rand()` below the threshold, at
most 32.  The argument counts those draws. -/
def gitdIntervalRandomLevel (draws : Nat) : Nat :=
  if 1 + draws < GTID_INTERVAL_SKIPLIST_MAXLEVEL then 1 + draws
  else GTID_INTERVAL_SKIPLIST_MAXLEVEL

structure GtidIntervalSkipList where
  header : Addr
  tail : Addr
  nodeCount : Nat
  gnoCount : Int
  level : Nat
  nodes : Arena GtidIntervalNode
deriving DecidableEq, Repr

def gtidIntervalSkipListNew : GtidIntervalSkipList where
  header := (Arena.empty : Arena GtidIntervalNode).fresh
  tail := (Arena.empty : Arena GtidIntervalNode).fresh
  nodeCount := 1
  gnoCount := 0
  level := 1
  nodes := Arena.empty.alloc (gtidIntervalNodeNew GTID_INTERVAL_SKIPLIST_MAXLEVEL 0 0)

/-! ## Links -/

/-- `a->forwards[i]` -/
def forward (nodes : Arena GtidIntervalNode) (i : Nat) (a : Addr) : Option Addr :=
  (nodes.get a).bind (fun n => n.forwards[i]?.join)

/-- `a->forwards[i] = p` -/
def setForward (nodes : Arena GtidIntervalNode) (i : Nat) (a : Addr) (p : Option Addr) :
    Arena GtidIntervalNode :=
  nodes.modify a (fun n => { n with forwards := n.forwards.set i p })

/-- Whether the node at `a` satisfies a search condition. -/
def nodeTest (nodes : Arena GtidIntervalNode) (c : GtidIntervalNode → Bool) (a : Addr) : Bool :=
  ((nodes.get a).map c).getD false

/-- The search loop over the levels below `i`, entered at node `x`: on each level move
forward while the node ahead satisfies `c`, and record where the walk stopped. -/
def predecessorsFrom (gsl : GtidIntervalSkipList) (c : GtidIntervalNode → Bool) :
    Nat → Addr → Nat → Addr
  | 0, _ => fun _ => gsl.header
  | i + 1, x =>
    let x' := walkWhile (forward gsl.nodes i) (nodeTest gsl.nodes c) gsl.nodes.size x
    fun j => if j = i then x' else predecessorsFrom gsl c i x' j

def predecessors (gsl : GtidIntervalSkipList) (c : GtidIntervalNode → Bool) : Nat → Addr :=
  predecessorsFrom gsl c gsl.level gsl.header

/-- `for (i = 0; i < n; i++) x->forwards[i] = preds[i]->forwards[i],
preds[i]->forwards[i] = x` -/
def linkNode (preds : Nat → Addr) (x : Addr) (n : Nat) (nodes : Arena GtidIntervalNode) :
    Arena GtidIntervalNode :=
  (List.range n).foldl (fun h i =>
    setForward (setForward h i x (forward h i (preds i))) i (preds i) (some x)) nodes

/-- `for (i in is) preds[i]->forwards[i] = value`, the value read from the nodes as they
are at that point of the loop. -/
def relink (preds : Nat → Addr) (value : Arena GtidIntervalNode → Nat → Option Addr)
    (is : List Nat) (nodes : Arena GtidIntervalNode) : Arena GtidIntervalNode :=
  is.foldl (fun h i => setForward h i (preds i) (value h i)) nodes

/-- `while (l && l != stop)`: free `l` and go on with its successor; the nodes left, how
many were freed and how many gnos they held. -/
def freeRun (stop : Option Addr) :
    Nat → Option Addr → Arena GtidIntervalNode → Arena GtidIntervalNode × Nat × Int
  | 0, _, nodes => (nodes, 0, 0)
  | _ + 1, none, nodes => (nodes, 0, 0)
  | fuel + 1, some l, nodes =>
    if some l = stop then (nodes, 0, 0)
    else
      match nodes.get l with
      | none => (nodes, 0, 0)
      | some n =>
        let (nodes', freed, gnos) := freeRun stop fuel (forward nodes 0 l) (nodes.free l)
        (nodes', freed + 1, gtidIntervalNodeGnoCount n + gnos)

/-- `while (level > 1 && header->forwards[level-1] == NULL) level--` -/
def shrinkLevel (nodes : Arena GtidIntervalNode) (header : Addr) : Nat → Nat
  | 0 => 0
  | 1 => 1
  | n + 2 =>
    if forward nodes (n + 1) header = none then shrinkLevel nodes header (n + 1) else n + 2

/-- Create a node for `[start, end]` after the nodes in `preds`. -/
def insertNode (gsl : GtidIntervalSkipList) (preds : Nat → Addr) (start «end» : Int)
    (rand : Rand) : GtidIntervalSkipList :=
  let level := gitdIntervalRandomLevel (rand 0)
  let x := gsl.nodes.fresh
  let preds := fun i => if gsl.level ≤ i ∧ i < level then gsl.header else preds i
  let nodes := linkNode preds x level (gsl.nodes.alloc (gtidIntervalNodeNew level start «end»))
  { gsl with
    level := if gsl.level < level then level else gsl.level
    nodes := nodes
    nodeCount := gsl.nodeCount + 1
    tail := (forward nodes 0 gsl.tail).getD gsl.tail }

/-! ## Operations -/

/-- The loop of `gtidIntervalSkipListDup`: copy the nodes from `cur` on, keeping in
`leads` the last copied node of every level. -/
def dupNodes (src : Arena GtidIntervalNode) :
    Nat → Option Addr → (Nat → Addr) → Addr → Arena GtidIntervalNode →
      Arena GtidIntervalNode × Addr
  | 0, _, _, tail, nodes => (nodes, tail)
  | _ + 1, none, _, tail, nodes => (nodes, tail)
  | fuel + 1, some cur, leads, tail, nodes =>
    match src.get cur with
    | none => (nodes, tail)
    | some n =>
      let x := nodes.fresh
      let nodes := relink leads (fun _ _ => some x) (List.range n.level)
        (nodes.alloc (gtidIntervalNodeNew n.level n.start n.end))
      dupNodes src fuel (forward src 0 cur) (fun i => if i < n.level then x else leads i) x nodes

def gtidIntervalSkipListDup (gsl : GtidIntervalSkipList) : GtidIntervalSkipList :=
  let dup := gtidIntervalSkipListNew
  let (nodes, tail) := dupNodes gsl.nodes gsl.nodes.size (forward gsl.nodes 0 gsl.header)
    (fun _ => dup.header) dup.header dup.nodes
  { header := dup.header
    tail := tail
    nodeCount := gsl.nodeCount
    gnoCount := gsl.gnoCount
    level := gsl.level
    nodes := nodes }

/-- The branch of `gtidIntervalSkipListAdd` that joins all nodes overlapping or touching
`[start, end]` to the rightmost of them. -/
def joinNodes (gsl : GtidIntervalSkipList) (lefts rights : Nat → Addr) (start «end» : Int) :
    Option (GtidIntervalSkipList × Int) := do
  let x := rights 0
  let l ← forward gsl.nodes 0 (lefts 0)
  let ln ← gsl.nodes.get l
  let xn ← gsl.nodes.get x
  let joined := { xn with start := min start ln.start, «end» := max «end» xn.end }
  let nodes := gsl.nodes.modify x (fun _ => joined)
  let nodes := relink lefts (fun _ _ => some x) (List.range xn.level) nodes
  let nodes := relink lefts (fun h i => forward h i (rights i))
    (List.range' xn.level (gsl.level - xn.level)) nodes
  let (nodes, freed, gnos) := freeRun (some x) nodes.size (some l) nodes
  let added := gtidIntervalNodeGnoCount joined - gtidIntervalNodeGnoCount xn - gnos
  some
    ({ gsl with
        nodes := nodes
        nodeCount := gsl.nodeCount - freed
        level := shrinkLevel nodes gsl.header gsl.level
        gnoCount := llong (gsl.gnoCount + added) },
      llong added)

/-- Add `[start, end]`; also the number of gnos added. -/
def gtidIntervalSkipListAdd (gsl : GtidIntervalSkipList) (start «end» : Int) (rand : Rand) :
    Option (GtidIntervalSkipList × Int) := do
  guard (gtidIntervalIsValid start «end»)
  let tail ← gsl.nodes.get gsl.tail
  if gsl.header ≠ gsl.tail ∧ llong (tail.end + 1) = start then
    -- fast path
    let added := llong («end» + 1 - start)
    some
      ({ gsl with
          nodes := gsl.nodes.modify gsl.tail (fun n => { n with «end» := «end» })
          gnoCount := llong (gsl.gnoCount + added) },
        added)
  else
    let lefts := predecessors gsl (fun n => llong (n.end + 1) < start)
    let rights := predecessors gsl (fun n => n.start ≤ llong («end» + 1))
    if lefts 0 = rights 0 then
      let added := llong («end» - start + 1)
      let gsl := insertNode gsl rights start «end» rand
      some ({ gsl with gnoCount := llong (gsl.gnoCount + added) }, added)
    else
      joinNodes gsl lefts rights start «end»

/-- The branch of `gtidIntervalSkipListRemove` that trims the first and the last node
meeting `[start, end]` and frees the nodes in between. -/
def cutNodes (gsl : GtidIntervalSkipList) (lefts rights : Nat → Addr) (start «end» : Int) :
    Option (GtidIntervalSkipList × Int) := do
  let l := lefts 0
  let ln ← gsl.nodes.get l
  let ln' := { ln with «end» := min ln.end (start - 1) }
  let nodes := gsl.nodes.modify l (fun _ => ln')
  let trimmedLeft := gtidIntervalNodeGnoCount ln - gtidIntervalNodeGnoCount ln'
  let r := forward nodes 0 (rights 0)
  let rn := r.bind nodes.get
  let rn' := rn.map (fun n => { n with start := max n.start (llong («end» + 1)) })
  let nodes := match r, rn' with
    | some r, some rn' => nodes.modify r (fun _ => rn')
    | _, _ => nodes
  let trimmedRight := match rn, rn' with
    | some rn, some rn' => gtidIntervalNodeGnoCount rn - gtidIntervalNodeGnoCount rn'
    | _, _ => 0
  let tail := if r = none then l else gsl.tail
  let first := forward nodes 0 l
  let nodes := relink lefts (fun h i => forward h i (rights i)) (List.range gsl.level) nodes
  let (nodes, freed, gnos) := freeRun r nodes.size first nodes
  let removed := trimmedLeft + trimmedRight + gnos
  some
    ({ gsl with
        nodes := nodes
        tail := tail
        nodeCount := gsl.nodeCount - freed
        level := shrinkLevel nodes gsl.header gsl.level
        gnoCount := llong (gsl.gnoCount - removed) },
      llong removed)

/-- Remove `[start, end]`; also the number of gnos removed. -/
def gtidIntervalSkipListRemove (gsl : GtidIntervalSkipList) (start «end» : Int) (rand : Rand) :
    Option (GtidIntervalSkipList × Int) := do
  guard (gtidIntervalIsValid start «end»)
  let lefts := predecessors gsl (fun n => n.start < start)
  let rights := predecessors gsl (fun n => n.end ≤ «end»)
  let l ← gsl.nodes.get (lefts 0)
  let r ← gsl.nodes.get (rights 0)
  if r.end < l.start then
    -- remove gnos within one node: split it
    let removed := llong («end» - start + 1)
    let gsl := { gsl with nodes := gsl.nodes.modify (lefts 0) (fun n => { n with «end» := start - 1 }) }
    let gsl := insertNode gsl lefts («end» + 1) l.end rand
    some ({ gsl with gnoCount := llong (gsl.gnoCount - removed) }, removed)
  else
    cutNodes gsl lefts rights start «end»

/-- The nodes of the level-0 chain after the header, as the loops over it visit them. -/
def chainNodes (gsl : GtidIntervalSkipList) : List Addr :=
  follow (forward gsl.nodes 0) gsl.nodes.size (forward gsl.nodes 0 gsl.header)

/-- The intervals of the set in level-0 order. -/
def intervals (gsl : GtidIntervalSkipList) : List (Int × Int) :=
  (chainNodes gsl).filterMap (fun a => (gsl.nodes.get a).map (fun n => (n.start, n.end)))

/-- `gtidIntervalSkipListAdd` of each interval of a list in turn. -/
def addIntervals (gsl : GtidIntervalSkipList) (rand : Rand) :
    List (Int × Int) → Option (GtidIntervalSkipList × Int)
  | [] => some (gsl, 0)
  | i :: l => do
    let (gsl, added) ← gtidIntervalSkipListAdd gsl i.1 i.2 (rand.sub 0)
    let (gsl, addedRest) ← addIntervals gsl (rand.sub 1) l
    some (gsl, llong (added + addedRest))

def gtidIntervalSkipListMerge (dst src : GtidIntervalSkipList) (rand : Rand) :
    Option (GtidIntervalSkipList × Int) :=
  addIntervals dst rand (intervals src)

/-- `gtidIntervalSkipListRemove` of each interval of a list in turn. -/
def removeIntervals (gsl : GtidIntervalSkipList) (rand : Rand) :
    List (Int × Int) → Option (GtidIntervalSkipList × Int)
  | [] => some (gsl, 0)
  | i :: l => do
    let (gsl, removed) ← gtidIntervalSkipListRemove gsl i.1 i.2 (rand.sub 0)
    let (gsl, removedRest) ← removeIntervals gsl (rand.sub 1) l
    some (gsl, llong (removed + removedRest))

def gtidIntervalSkipListDiff (dst src : GtidIntervalSkipList) (rand : Rand) :
    Option (GtidIntervalSkipList × Int) :=
  removeIntervals dst rand (intervals src)

def gtidIntervalSkipListContains (gsl : GtidIntervalSkipList) (gno : Int) : Option Bool := do
  guard (GTID_GNO_INITIAL ≤ gno)
  let x ← gsl.nodes.get (predecessors gsl (fun n => n.start ≤ gno) 0)
  some (x.start ≤ gno && gno ≤ x.end)

def gtidIntervalSkipListNext (gsl : GtidIntervalSkipList) (update : Bool) (rand : Rand) :
    Option (GtidIntervalSkipList × Int) := do
  let tail ← gsl.nodes.get gsl.tail
  let gno := llong (tail.end + 1)
  if update then
    let (gsl, _) ← gtidIntervalSkipListAdd gsl gno gno rand
    some (gsl, gno)
  else
    some (gsl, gno)

end XredisGtid
