import Mathlib.Data.String.Basic
import Ballista.Lib.SortedMap
import Ballista.Lib.Table

/-! # The consistent hash ring

`ConsistentHash` (core/src/consistent_hash) places a node on a ring of hashes at
`num_replicas` virtual nodes, the hashes of the ids `name:0`, `name:1`, ..., and
maps a key to the node of the first virtual node at or after the key's hash
whose node is valid, looking at no more than `tolerance` further positions. The
ring is a `SortedMap` from hashes to node names and the nodes a `Table` by name;
the hash function is a parameter (md5 in the source), applied to the bytes of a
string.

`getWithTolerance_eq` says what a lookup returns on any ring that has a virtual
node or no node at all: the first valid node among the first
`min t (len - 1) + 1` positions of the ring from the key's hash. A node added
with no replica leaves the nodes non-empty and the ring empty, and a lookup then
computes `0 - 1` on a `usize` (`getWithTolerance_noReplicas`).

Rings built by `new_with_hash`, `add` and `remove` are `WellFormed` whatever the
hash function: every virtual node names a node at the hash of one of its ids.
When the hash function tells the ids apart they are `Owned` as well: every node
holds all its virtual nodes. `get_remove_add` draws the consequences for `get`.
-/

namespace Ballista

/-- What the ring places: a name, and whether the node can take keys now
(trait `Node`). -/
class Node (N : Type) where
  name : N → String
  isValid : N → Bool

/-- The virtual nodes by hash, each with its node's name; the nodes with their
replica counts by name; the hash function. -/
structure ConsistentHash (N Key : Type) [LinearOrder Key] where
  virtualNodes : SortedMap Key String
  nodeReplicas : Table String (N × Nat)
  hashFunc : String → Key

namespace ConsistentHash

/-- The id of a node's `i`-th virtual node, `format!("{}:{i}", name)`. -/
def vnodeId (name : String) (i : Nat) : String := name ++ ":" ++ toString i

/-- A separator that two tails do not contain splits two lists alike. -/
theorem append_cons_eq_of_notMem {α : Type} {c : α} {back back' : List α}
    (absent : c ∉ back) (absent' : c ∉ back') :
    ∀ {front front' : List α}, front ++ c :: back = front' ++ c :: back' →
      front = front' ∧ back = back'
  | [], [], same => by simpa using same
  | [], _ :: front', same => by
    simp only [List.nil_append, List.cons_append, List.cons.injEq] at same
    exact absurd (by rw [same.2]; simp) absent
  | _ :: front, [], same => by
    simp only [List.nil_append, List.cons_append, List.cons.injEq] at same
    exact absurd (by rw [← same.2]; simp) absent'
  | _ :: front, _ :: front', same => by
    simp only [List.cons_append, List.cons.injEq] at same
    obtain ⟨fronts, backs⟩ := append_cons_eq_of_notMem absent absent' same.2
    exact ⟨by rw [same.1, fronts], backs⟩

/-- An id names one node and one replica: the replica's digits hold no colon,
so the last colon of an id ends the node's name, whatever colons the name holds. -/
theorem vnodeId_injective {name other : String} {i j : Nat}
    (same : vnodeId name i = vnodeId other j) : name = other ∧ i = j := by
  have noColon (n : Nat) : ':' ∉ Nat.toDigits 10 n := fun mem =>
    absurd (Nat.isDigit_of_mem_toDigits (by decide) (by decide) mem) (by decide)
  have lists := congrArg String.toList same
  simp only [vnodeId, String.toList_append, Nat.toString_eq_repr, Nat.toList_repr,
    List.append_assoc] at lists
  obtain ⟨names, digits⟩ := append_cons_eq_of_notMem (noColon i) (noColon j) lists
  refine ⟨String.toList_inj.mp names, ?_⟩
  calc i = Nat.ofDigitChars 10 (Nat.toDigits 10 i) 0 := Nat.ofDigitChars_ten_toDigits.symm
    _ = Nat.ofDigitChars 10 (Nat.toDigits 10 j) 0 := by rw [digits]
    _ = j := Nat.ofDigitChars_ten_toDigits

/-- The loop of `get_position_key` over the chained iterators: the first
position whose node is valid, giving up once `tolerance` more positions have
failed. -/
def walkRing {Key : Type} (valid : String → Bool) : Nat → List (Key × String) → Option Key
  | _, [] => none
  | 0, (positionKey, nodeName) :: _ => if valid nodeName then some positionKey else none
  | tolerance + 1, (positionKey, nodeName) :: rest =>
    if valid nodeName then some positionKey else walkRing valid tolerance rest

/-- The walk returns the first valid position among the first `tolerance + 1`. -/
theorem walkRing_eq {Key : Type} (valid : String → Bool) :
    ∀ (tolerance : Nat) (ring : List (Key × String)),
      walkRing valid tolerance ring =
        ((ring.take (tolerance + 1)).find? fun entry => valid entry.2).map Prod.fst
  | _, [] => by simp [walkRing]
  | 0, (positionKey, nodeName) :: rest => by
    by_cases holds : valid nodeName <;> simp [walkRing, holds]
  | tolerance + 1, (positionKey, nodeName) :: rest => by
    by_cases holds : valid nodeName <;> simp [walkRing, holds, walkRing_eq valid tolerance rest]

/-- `a - b` on `usize` with overflow checks (the dev and test profiles): it
panics below zero. -/
def checkedSub (a b : Nat) : Except String Nat :=
  if b ≤ a then .ok (a - b) else .error "attempt to subtract with overflow"

variable {N Key : Type} [Node N] [LinearOrder Key]

/-- The hashes of a node's virtual nodes, `for i in 0..num_replicas`. -/
def vnodeKeys (ch : ConsistentHash N Key) (name : String) (numReplicas : Nat) : List Key :=
  (List.range numReplicas).map fun i => ch.hashFunc (vnodeId name i)

/-- `remove`: drop the node, then the virtual nodes that its name and replica
count give; the node and its count when it was there. -/
def remove (ch : ConsistentHash N Key) (nodeName : String) :
    Option (N × Nat) × ConsistentHash N Key :=
  match ch.nodeReplicas.get? nodeName with
  | some (node, numReplicas) =>
    (some (node, numReplicas),
      { ch with
        nodeReplicas := ch.nodeReplicas.erase nodeName
        virtualNodes := (ch.vnodeKeys nodeName numReplicas).foldl SortedMap.erase
          ch.virtualNodes })
  | none => (none, ch)

/-- `add`: remove the node's name, then place its virtual nodes and record it. -/
def add (ch : ConsistentHash N Key) (node : N) (numReplicas : Nat) : ConsistentHash N Key :=
  let removed := (ch.remove (Node.name node)).2
  { removed with
    virtualNodes := (removed.vnodeKeys (Node.name node) numReplicas).foldl
      (fun vnodes key => vnodes.insert key (Node.name node)) removed.virtualNodes
    nodeReplicas := removed.nodeReplicas.insert (Node.name node) (node, numReplicas) }

/-- `new_with_hash`: the empty ring, with the nodes added in order. -/
def newWithHash (nodeReplicas : List (N × Nat)) (hashFunc : String → Key) :
    ConsistentHash N Key :=
  nodeReplicas.foldl (fun ch entry => ch.add entry.1 entry.2)
    { virtualNodes := SortedMap.empty, nodeReplicas := [], hashFunc := hashFunc }

/-- Whether a node of this name is there and valid. -/
def validNode (ch : ConsistentHash N Key) (name : String) : Bool :=
  match ch.nodeReplicas.get? name with
  | some (node, _) => Node.isValid node
  | none => false

/-- The cap on the tolerance, `if tolerance >= len { len - 1 } else { tolerance }`. -/
def capTolerance (length tolerance : Nat) : Except String Nat :=
  if length ≤ tolerance then checkedSub length 1 else .ok tolerance

/-- `get_position_key`: no position without nodes; the walk with the capped
tolerance over `range(hashed_key..)` chained with the whole ring. -/
def getPositionKey (ch : ConsistentHash N Key) (key : String) (tolerance : Nat) :
    Except String (Option Key) :=
  if ch.nodeReplicas.isEmpty then .ok none
  else do
    let tolerance ← capTolerance ch.virtualNodes.length tolerance
    let hashedKey := ch.hashFunc key
    return walkRing ch.validNode tolerance
      (ch.virtualNodes.rangeFrom hashedKey ++ ch.virtualNodes.entries)

/-- The node at a position: `virtual_nodes.get`, then
`node_replicas.get(node_name).unwrap()`. -/
def nodeAt (ch : ConsistentHash N Key) (positionKey : Key) : Except String (Option N) :=
  match ch.virtualNodes.get? positionKey with
  | none => .ok none
  | some nodeName =>
    match ch.nodeReplicas.get? nodeName with
    | some (node, _) => .ok (some node)
    | none => .error "called `Option::unwrap()` on a `None` value"

/-- `get_with_tolerance`. -/
def getWithTolerance (ch : ConsistentHash N Key) (key : String) (tolerance : Nat) :
    Except String (Option N) := do
  match ← ch.getPositionKey key tolerance with
  | none => return none
  | some positionKey => ch.nodeAt positionKey

/-- `get`: the lookup with no tolerance. -/
def get (ch : ConsistentHash N Key) (key : String) : Except String (Option N) :=
  ch.getWithTolerance key 0

/-- `get_mut_with_tolerance`: the same lookup, giving the name under which the
node is stored, for the caller to update it in place. -/
def getMutWithTolerance (ch : ConsistentHash N Key) (key : String) (tolerance : Nat) :
    Except String (Option String) := do
  match ← ch.getPositionKey key tolerance with
  | none => return none
  | some positionKey =>
    match ch.virtualNodes.get? positionKey with
    | none => return none
    | some nodeName =>
      if ch.nodeReplicas.contains nodeName then return some nodeName
      else throw "called `Option::unwrap()` on a `None` value"

/-! ### What a lookup returns -/

/-- The positions a lookup may look at: the ring from the key's hash, cut to the
capped tolerance plus one. -/
def window (ch : ConsistentHash N Key) (key : String) (tolerance : Nat) : List (Key × String) :=
  (ch.virtualNodes.ringFrom (ch.hashFunc key)).take (min tolerance (ch.virtualNodes.length - 1) + 1)

theorem getPositionKey_eq (ch : ConsistentHash N Key) (key : String) (tolerance : Nat)
    (nodes : ch.nodeReplicas ≠ []) (placed : ch.virtualNodes.entries ≠ []) :
    ch.getPositionKey key tolerance =
      .ok (((ch.window key tolerance).find? fun entry => ch.validNode entry.2).map Prod.fst) := by
  have positive : 0 < ch.virtualNodes.length := List.length_pos_iff.mpr placed
  have capped : capTolerance ch.virtualNodes.length tolerance =
      .ok (min tolerance (ch.virtualNodes.length - 1)) := by
    by_cases beyond : ch.virtualNodes.length ≤ tolerance
    · rw [capTolerance, if_pos beyond, checkedSub, if_pos (by omega), min_eq_right (by omega)]
    · rw [capTolerance, if_neg beyond, min_eq_left (by omega)]
  have within : min tolerance (ch.virtualNodes.length - 1) + 1 ≤ ch.virtualNodes.length := by
    omega
  rw [getPositionKey, if_neg (by simpa using nodes), capped]
  simp only [bind, Except.bind, pure, Except.pure]
  rw [walkRing_eq, SortedMap.take_rangeFrom_append _ _ within, window]

/-- A ring with nodes and no virtual node fails every lookup on `len() - 1`. -/
theorem getPositionKey_of_entries_eq_nil (ch : ConsistentHash N Key) (key : String)
    (tolerance : Nat) (nodes : ch.nodeReplicas ≠ []) (empty : ch.virtualNodes.entries = []) :
    ch.getPositionKey key tolerance = .error "attempt to subtract with overflow" := by
  have size : ch.virtualNodes.length = 0 := List.length_eq_zero_iff.mpr empty
  rw [getPositionKey, if_neg (by simpa using nodes), size, capTolerance, if_pos (Nat.zero_le _)]
  rfl

/-- The node a valid position names is there: the unwrap never fails on it. -/
theorem nodeAt_of_validNode {ch : ConsistentHash N Key} {entry : Key × String}
    (mem : entry ∈ ch.virtualNodes.entries) (valid : ch.validNode entry.2 = true) :
    ch.nodeAt entry.1 = .ok ((ch.nodeReplicas.get? entry.2).map Prod.fst) := by
  have stands : ch.virtualNodes.get? entry.1 = some entry.2 := SortedMap.get?_eq_some_iff.mpr mem
  unfold validNode at valid
  split at valid
  · rename_i node numReplicas found
    simp [nodeAt, stands, found]
  · cases valid

/-- A lookup on a ring that has a virtual node, or no node at all, returns the
node of the first valid position in its window. -/
theorem getWithTolerance_eq (ch : ConsistentHash N Key) (key : String) (tolerance : Nat)
    (placed : ch.virtualNodes.entries ≠ [] ∨ ch.nodeReplicas = []) :
    ch.getWithTolerance key tolerance =
      .ok (((ch.window key tolerance).find? fun entry => ch.validNode entry.2).bind
        fun entry => (ch.nodeReplicas.get? entry.2).map Prod.fst) := by
  by_cases nodes : ch.nodeReplicas = []
  · -- no node is valid, and no position is looked at
    have none_valid : ((ch.window key tolerance).find? fun entry => ch.validNode entry.2) = none :=
      List.find?_eq_none.mpr fun entry _ => by simp [validNode, nodes]
    simp [getWithTolerance, getPositionKey, nodes, none_valid, bind, Except.bind, pure, Except.pure]
  · have occupied := placed.resolve_right nodes
    rw [getWithTolerance, getPositionKey_eq ch key tolerance nodes occupied]
    cases found : (ch.window key tolerance).find? fun entry => ch.validNode entry.2 with
    | none => rfl
    | some entry =>
      have mem : entry ∈ ch.virtualNodes.entries :=
        SortedMap.mem_ringFrom.mp (List.mem_of_mem_take (List.mem_of_find?_eq_some found))
      exact nodeAt_of_validNode mem (List.find?_some found :)

/-- A node added with no replica leaves a ring with one node and no virtual
node, and every lookup in it computes `0 - 1` on a `usize`. -/
theorem getWithTolerance_noReplicas (hashFunc : String → Key) (node : N) (key : String)
    (tolerance : Nat) :
    (newWithHash [(node, 0)] hashFunc).getWithTolerance key tolerance =
        .error "attempt to subtract with overflow" ∧
      (newWithHash [(node, 0)] hashFunc).getMutWithTolerance key tolerance =
        .error "attempt to subtract with overflow" := by
  have failed := getPositionKey_of_entries_eq_nil (newWithHash [(node, 0)] hashFunc) key tolerance
    (by simp [newWithHash, add, remove, Table.insert_ne_nil]) rfl
  simp [getWithTolerance, getMutWithTolerance, failed, bind, Except.bind]

/-! ### How `add` and `remove` change the ring -/

omit [Node N] in
@[simp] theorem hashFunc_remove (ch : ConsistentHash N Key) (nodeName : String) :
    (ch.remove nodeName).2.hashFunc = ch.hashFunc := by
  unfold remove
  split <;> rfl

@[simp] theorem hashFunc_add (ch : ConsistentHash N Key) (node : N) (numReplicas : Nat) :
    (ch.add node numReplicas).hashFunc = ch.hashFunc := by
  simp [add]

omit [Node N] in
@[simp] theorem vnodeKeys_remove (ch : ConsistentHash N Key) (nodeName : String) :
    (ch.remove nodeName).2.vnodeKeys = ch.vnodeKeys := by
  funext name numReplicas
  simp [vnodeKeys]

omit [Node N] in
theorem mem_vnodeKeys {ch : ConsistentHash N Key} {name : String} {numReplicas : Nat}
    {positionKey : Key} :
    positionKey ∈ ch.vnodeKeys name numReplicas ↔
      ∃ i < numReplicas, positionKey = ch.hashFunc (vnodeId name i) := by
  simp only [vnodeKeys, List.mem_map, List.mem_range]
  exact ⟨fun ⟨i, below, hashed⟩ => ⟨i, below, hashed.symm⟩,
    fun ⟨i, below, hashed⟩ => ⟨i, below, hashed.symm⟩⟩

omit [Node N] in
theorem remove_of_get? {ch : ConsistentHash N Key} {nodeName : String} {node : N}
    {numReplicas : Nat} (found : ch.nodeReplicas.get? nodeName = some (node, numReplicas)) :
    ch.remove nodeName =
      (some (node, numReplicas),
        { ch with
          nodeReplicas := ch.nodeReplicas.erase nodeName
          virtualNodes := (ch.vnodeKeys nodeName numReplicas).foldl SortedMap.erase
            ch.virtualNodes }) := by
  simp [remove, found]

omit [Node N] in
theorem remove_of_get?_eq_none {ch : ConsistentHash N Key} {nodeName : String}
    (missing : ch.nodeReplicas.get? nodeName = none) : ch.remove nodeName = (none, ch) := by
  simp [remove, missing]

omit [Node N] in
theorem get?_nodeReplicas_remove (ch : ConsistentHash N Key) (nodeName name : String) :
    (ch.remove nodeName).2.nodeReplicas.get? name =
      if name = nodeName then none else ch.nodeReplicas.get? name := by
  cases found : ch.nodeReplicas.get? nodeName with
  | none =>
    rw [remove_of_get?_eq_none found]
    split_ifs with same
    · rw [same, found]
    · rfl
  | some entry => rw [remove_of_get? found, Table.get?_erase]

omit [Node N] in
/-- `remove` of a node that is there erases the keys of its virtual nodes. -/
theorem get?_virtualNodes_remove {ch : ConsistentHash N Key} {nodeName : String} {node : N}
    {numReplicas : Nat} (found : ch.nodeReplicas.get? nodeName = some (node, numReplicas))
    (positionKey : Key) :
    (ch.remove nodeName).2.virtualNodes.get? positionKey =
      if positionKey ∈ ch.vnodeKeys nodeName numReplicas then none
      else ch.virtualNodes.get? positionKey := by
  rw [remove_of_get? found]
  exact SortedMap.get?_foldl_erase _ _ _

theorem get?_nodeReplicas_add (ch : ConsistentHash N Key) (node : N) (numReplicas : Nat)
    (name : String) :
    (ch.add node numReplicas).nodeReplicas.get? name =
      if name = Node.name node then some (node, numReplicas) else ch.nodeReplicas.get? name := by
  simp only [add, Table.get?_insert, get?_nodeReplicas_remove]
  split_ifs <;> rfl

/-- `add` binds the keys of the node's virtual nodes to its name, over the ring
that the `remove` of its name leaves. -/
theorem get?_virtualNodes_add (ch : ConsistentHash N Key) (node : N) (numReplicas : Nat)
    (positionKey : Key) :
    (ch.add node numReplicas).virtualNodes.get? positionKey =
      if positionKey ∈ ch.vnodeKeys (Node.name node) numReplicas then some (Node.name node)
      else (ch.remove (Node.name node)).2.virtualNodes.get? positionKey := by
  simp only [add, vnodeKeys_remove]
  exact SortedMap.get?_foldl_insert _ _ _ _

/-- A property that the empty ring has and every `add` keeps holds of
`new_with_hash`. -/
theorem newWithHash_induction {P : ConsistentHash N Key → Prop} (hashFunc : String → Key)
    (empty : P { virtualNodes := SortedMap.empty, nodeReplicas := [], hashFunc := hashFunc })
    (add : ∀ ch node numReplicas, P ch → P (ch.add node numReplicas))
    (nodeReplicas : List (N × Nat)) : P (newWithHash nodeReplicas hashFunc) := by
  unfold newWithHash
  generalize ({ virtualNodes := SortedMap.empty, nodeReplicas := [], hashFunc := hashFunc } :
    ConsistentHash N Key) = start at empty
  induction nodeReplicas generalizing start with
  | nil => exact empty
  | cons entry rest ih => exact ih _ (add start entry.1 entry.2 empty)

/-- A node of a new name is stored after the others. -/
theorem nodeReplicas_add_of_not_mem {ch : ConsistentHash N Key} {node : N} (numReplicas : Nat)
    (fresh : Node.name node ∉ ch.nodeReplicas.keys) :
    (ch.add node numReplicas).nodeReplicas = ch.nodeReplicas ++ [(Node.name node, (node, numReplicas))] := by
  have absent := Table.get?_eq_none_iff.mpr fresh
  simp [add, remove_of_get?_eq_none absent, Table.insert, Table.contains, absent]

/-- Nodes of distinct names are stored by name in the order given. -/
theorem nodeReplicas_newWithHash (nodeReplicas : List (N × Nat)) (hashFunc : String → Key)
    (distinct : (nodeReplicas.map fun entry => Node.name entry.1).Nodup) :
    (newWithHash nodeReplicas hashFunc).nodeReplicas =
      nodeReplicas.map fun entry => (Node.name entry.1, entry) := by
  -- each node is added to a ring that has none of its name
  suffices added : ∀ (nodes : List (N × Nat)) (ch : ConsistentHash N Key),
      (ch.nodeReplicas.keys ++ nodes.map fun entry => Node.name entry.1).Nodup →
      (nodes.foldl (fun ch entry => ch.add entry.1 entry.2) ch).nodeReplicas =
        ch.nodeReplicas ++ nodes.map fun entry => (Node.name entry.1, entry) by
    exact (added nodeReplicas _ (by simpa [Table.keys] using distinct)).trans (List.nil_append _)
  intro nodes
  induction nodes with
  | nil => simp
  | cons entry rest ih =>
    intro ch fresh
    have first : Node.name entry.1 ∉ ch.nodeReplicas.keys :=
      fun mem => (List.nodup_middle.mp fresh |> List.nodup_cons.mp).1 (List.mem_append_left _ mem)
    rw [List.foldl_cons, ih, nodeReplicas_add_of_not_mem _ first, List.map_cons, List.append_assoc,
      List.singleton_append]
    rw [nodeReplicas_add_of_not_mem _ first]
    simpa [Table.keys] using fresh

/-- The rings that `new_with_hash`, `add` and `remove` build with one hash
function. -/
inductive Built (hashFunc : String → Key) : ConsistentHash N Key → Prop
  | new (nodeReplicas : List (N × Nat)) : Built hashFunc (newWithHash nodeReplicas hashFunc)
  | add {ch : ConsistentHash N Key} (node : N) (numReplicas : Nat) :
      Built hashFunc ch → Built hashFunc (ch.add node numReplicas)
  | remove {ch : ConsistentHash N Key} (nodeName : String) :
      Built hashFunc ch → Built hashFunc (ch.remove nodeName).2

theorem Built.hashFunc_eq {hashFunc : String → Key} {ch : ConsistentHash N Key}
    (built : Built hashFunc ch) : ch.hashFunc = hashFunc := by
  induction built with
  | new nodeReplicas =>
    exact newWithHash_induction (P := fun ch => ch.hashFunc = hashFunc) hashFunc rfl
      (fun ch node numReplicas kept => by rw [hashFunc_add, kept]) nodeReplicas
  | add node numReplicas _ kept => rw [hashFunc_add, kept]
  | remove nodeName _ kept => rw [hashFunc_remove, kept]

/-! ### The representation invariant -/

/-- What every ring built by `new_with_hash`, `add` and `remove` satisfies,
whatever the hash function. -/
structure WellFormed (ch : ConsistentHash N Key) : Prop where
  /-- Each node is stored under its own name. -/
  named : ∀ name node numReplicas,
    ch.nodeReplicas.get? name = some (node, numReplicas) → Node.name node = name
  /-- Every virtual node names a node, at the hash of one of that node's ids. -/
  placed : ∀ positionKey name, ch.virtualNodes.get? positionKey = some name →
    ∃ node numReplicas, ch.nodeReplicas.get? name = some (node, numReplicas) ∧
      ∃ i < numReplicas, positionKey = ch.hashFunc (vnodeId name i)

theorem wellFormed_empty (hashFunc : String → Key) :
    WellFormed ({ virtualNodes := SortedMap.empty, nodeReplicas := [], hashFunc := hashFunc } :
      ConsistentHash N Key) where
  named _ _ _ found := by cases found
  placed _ _ stands := by cases stands

theorem WellFormed.remove {ch : ConsistentHash N Key} (formed : ch.WellFormed)
    (nodeName : String) : (ch.remove nodeName).2.WellFormed := by
  cases found : ch.nodeReplicas.get? nodeName with
  | none => rwa [remove_of_get?_eq_none found]
  | some entry =>
    obtain ⟨node, numReplicas⟩ := entry
    constructor
    · intro name other count present
      rw [get?_nodeReplicas_remove] at present
      split_ifs at present
      exact formed.named name other count present
    · intro positionKey name stands
      rw [get?_virtualNodes_remove found] at stands
      split_ifs at stands with erased
      obtain ⟨other, count, present, i, below, hashed⟩ := formed.placed positionKey name stands
      -- the removed node's virtual nodes are exactly the erased keys
      have kept : name ≠ nodeName := by
        rintro rfl
        rw [found] at present
        cases present
        exact erased (mem_vnodeKeys.mpr ⟨i, below, hashed⟩)
      refine ⟨other, count, ?_, i, below, ?_⟩
      · rw [get?_nodeReplicas_remove, if_neg kept]
        exact present
      · rw [hashFunc_remove]
        exact hashed

theorem WellFormed.add {ch : ConsistentHash N Key} (formed : ch.WellFormed) (node : N)
    (numReplicas : Nat) : (ch.add node numReplicas).WellFormed where
  named name other count present := by
    rw [get?_nodeReplicas_add] at present
    split_ifs at present with same
    · cases present
      exact same.symm
    · exact formed.named name other count present
  placed positionKey name stands := by
    rw [get?_virtualNodes_add] at stands
    split_ifs at stands with fresh
    · cases stands
      obtain ⟨i, below, hashed⟩ := mem_vnodeKeys.mp fresh
      exact ⟨node, numReplicas, by simp [get?_nodeReplicas_add], i, below, by simpa using hashed⟩
    · obtain ⟨other, count, present, i, below, hashed⟩ :=
        (formed.remove (Node.name node)).placed positionKey name stands
      -- the ring before the new virtual nodes has none of the node's name
      have kept : name ≠ Node.name node := by
        rintro rfl
        simp [get?_nodeReplicas_remove] at present
      refine ⟨other, count, ?_, i, below, ?_⟩
      · rw [get?_nodeReplicas_add, if_neg kept, ← present, get?_nodeReplicas_remove, if_neg kept]
      · simpa using hashed

theorem Built.wellFormed {hashFunc : String → Key} {ch : ConsistentHash N Key}
    (built : Built hashFunc ch) : ch.WellFormed := by
  induction built with
  | new nodeReplicas =>
    exact newWithHash_induction hashFunc (wellFormed_empty hashFunc)
      (fun _ node numReplicas formed => formed.add node numReplicas) nodeReplicas
  | add node numReplicas _ formed => exact formed.add node numReplicas
  | remove nodeName _ formed => exact formed.remove nodeName

/-- The hash function tells the virtual-node ids apart. -/
def SeparatesIds (hashFunc : String → Key) : Prop :=
  ∀ name i other j, hashFunc (vnodeId name i) = hashFunc (vnodeId other j) →
    vnodeId name i = vnodeId other j

omit [LinearOrder Key] in
theorem SeparatesIds.name_eq {hashFunc : String → Key} (separates : SeparatesIds hashFunc)
    {name other : String} {i j : Nat}
    (same : hashFunc (vnodeId name i) = hashFunc (vnodeId other j)) : name = other :=
  (vnodeId_injective (separates name i other j same)).1

/-- Every node holds the virtual nodes at the hashes of all its ids. -/
def Owned (ch : ConsistentHash N Key) : Prop :=
  ∀ name node numReplicas, ch.nodeReplicas.get? name = some (node, numReplicas) →
    ∀ i < numReplicas, ch.virtualNodes.get? (ch.hashFunc (vnodeId name i)) = some name

section Separated

variable {ch : ConsistentHash N Key} (separates : SeparatesIds ch.hashFunc)
include separates

omit [Node N] in
/-- Another node's virtual nodes are not among a node's keys. -/
theorem not_mem_vnodeKeys {name other : String} (apart : name ≠ other) (i numReplicas : Nat) :
    ch.hashFunc (vnodeId name i) ∉ ch.vnodeKeys other numReplicas := fun mem => by
  obtain ⟨j, -, hashed⟩ := mem_vnodeKeys.mp mem
  exact apart (separates.name_eq hashed)

omit [Node N] in
theorem Owned.remove (owned : ch.Owned) (nodeName : String) : (ch.remove nodeName).2.Owned := by
  cases found : ch.nodeReplicas.get? nodeName with
  | none => rwa [remove_of_get?_eq_none found]
  | some entry =>
    intro name other count present i below
    rw [get?_nodeReplicas_remove] at present
    split_ifs at present with same
    rw [hashFunc_remove, get?_virtualNodes_remove found,
      if_neg (not_mem_vnodeKeys separates same i _)]
    exact owned name other count present i below

theorem Owned.add (owned : ch.Owned) (node : N) (numReplicas : Nat) :
    (ch.add node numReplicas).Owned := by
  intro name other count present i below
  rw [hashFunc_add, get?_virtualNodes_add]
  rw [get?_nodeReplicas_add] at present
  split_ifs at present with same
  · cases present
    rw [same, if_pos (mem_vnodeKeys.mpr ⟨i, below, rfl⟩)]
  · have removed := owned.remove separates (Node.name node) name other count
      (by rw [get?_nodeReplicas_remove, if_neg same]; exact present) i below
    rw [hashFunc_remove] at removed
    rw [if_neg (not_mem_vnodeKeys separates same i _), removed]

end Separated

theorem Built.owned {hashFunc : String → Key} (separates : SeparatesIds hashFunc)
    {ch : ConsistentHash N Key} (built : Built hashFunc ch) : ch.Owned := by
  induction built with
  | new nodeReplicas =>
    -- the hash function stays the one given, so each add keeps the ids apart
    refine (newWithHash_induction (P := fun ch => ch.hashFunc = hashFunc ∧ ch.Owned) hashFunc
      ⟨rfl, fun _ _ _ found => by cases found⟩ ?_ nodeReplicas).2
    intro ch node numReplicas ⟨hashed, owned⟩
    exact ⟨by rw [hashFunc_add, hashed], owned.add (hashed ▸ separates) node numReplicas⟩
  | add node numReplicas built owned =>
    exact owned.add (built.hashFunc_eq ▸ separates) node numReplicas
  | remove nodeName built owned =>
    exact owned.remove (built.hashFunc_eq ▸ separates) nodeName

/-! ### Lookups after `add` and `remove` -/

/-- Lookups read the nodes only through `get?`: two rings with the same virtual
nodes, hash function and node lookups answer every lookup alike. -/
theorem getWithTolerance_congr {ch other : ConsistentHash N Key}
    (vnodes : other.virtualNodes = ch.virtualNodes) (hashes : other.hashFunc = ch.hashFunc)
    (nodes : ∀ name, other.nodeReplicas.get? name = ch.nodeReplicas.get? name)
    (key : String) (tolerance : Nat) :
    other.getWithTolerance key tolerance = ch.getWithTolerance key tolerance := by
  have empty : other.nodeReplicas.isEmpty = ch.nodeReplicas.isEmpty := by
    rw [Bool.eq_iff_iff, List.isEmpty_iff, List.isEmpty_iff, Table.eq_nil_iff_get?_eq_none,
      Table.eq_nil_iff_get?_eq_none]
    simp only [nodes]
  have valid : other.validNode = ch.validNode := funext fun name => by simp only [validNode, nodes]
  have positions : other.getPositionKey key tolerance = ch.getPositionKey key tolerance := by
    simp only [getPositionKey, empty, valid, vnodes, hashes]
  have nodeAts : other.nodeAt = ch.nodeAt := funext fun positionKey => by
    simp only [nodeAt, vnodes, nodes]
  simp only [getWithTolerance, positions, nodeAts]

/-- When the node of every virtual node is valid, `get` reads the node of the
first virtual node at or after the key's hash. -/
theorem get_eq_head? {ch : ConsistentHash N Key} (key : String)
    (valid : ∀ entry ∈ ch.virtualNodes.entries, ch.validNode entry.2 = true)
    (placed : ch.virtualNodes.entries ≠ [] ∨ ch.nodeReplicas = []) :
    ch.get key = .ok ((ch.virtualNodes.ringFrom (ch.hashFunc key)).head?.bind
      fun entry => (ch.nodeReplicas.get? entry.2).map Prod.fst) := by
  rw [get, getWithTolerance_eq ch key 0 placed, window, Nat.zero_min, zero_add]
  -- the window is the head of the ring, and its node is valid
  cases ring : ch.virtualNodes.ringFrom (ch.hashFunc key) with
  | nil => rfl
  | cons entry rest =>
    have mem : entry ∈ ch.virtualNodes.entries :=
      SortedMap.mem_ringFrom.mp (by rw [ring]; exact List.mem_cons_self)
    simp [valid entry mem]

/-- A lookup that returns, on a ring with nodes, had a virtual node to look at. -/
theorem entries_ne_nil_of_getWithTolerance {ch : ConsistentHash N Key} {key : String}
    {tolerance : Nat} {result : Option N} (nodes : ch.nodeReplicas ≠ [])
    (got : ch.getWithTolerance key tolerance = .ok result) : ch.virtualNodes.entries ≠ [] :=
  fun empty => by
    rw [getWithTolerance, getPositionKey_of_entries_eq_nil ch key tolerance nodes empty] at got
    simp [bind, Except.bind] at got

/-- Every virtual node of a well-formed ring names a node, so when all nodes are
valid every position is. -/
theorem WellFormed.validNode {ch : ConsistentHash N Key} (formed : ch.WellFormed)
    (allValid : ∀ name node numReplicas,
      ch.nodeReplicas.get? name = some (node, numReplicas) → Node.isValid node = true) :
    ∀ entry ∈ ch.virtualNodes.entries, ch.validNode entry.2 = true := by
  intro entry mem
  obtain ⟨node, numReplicas, present, -⟩ :=
    formed.placed entry.1 entry.2 (SortedMap.get?_eq_some_iff.mpr mem)
  simp [ConsistentHash.validNode, present, allValid _ _ _ present]

omit [Node N] in
/-- `remove` of a node that is there erases its keys from the ring, in place. -/
theorem ringFrom_remove {ch : ConsistentHash N Key} {nodeName : String} {node : N}
    {numReplicas : Nat} (found : ch.nodeReplicas.get? nodeName = some (node, numReplicas))
    (key : Key) :
    (ch.remove nodeName).2.virtualNodes.ringFrom key =
      (ch.virtualNodes.ringFrom key).filter (·.1 ∉ ch.vnodeKeys nodeName numReplicas) := by
  rw [remove_of_get? found]
  exact SortedMap.ringFrom_foldl_erase _ _ _

section Removal

variable {ch : ConsistentHash N Key} (formed : ch.WellFormed) (owned : ch.Owned)
  {name : String} {node : N} {numReplicas : Nat}
  (present : ch.nodeReplicas.get? name = some (node, numReplicas))
include formed owned present

/-- Removing a node leaves every lookup that did not return it as it was. -/
theorem get_remove_of_ne
    (allValid : ∀ name node numReplicas,
      ch.nodeReplicas.get? name = some (node, numReplicas) → Node.isValid node = true)
    (key : String) {result : Option N} (got : ch.get key = .ok result)
    (other : result.map Node.name ≠ some name) : (ch.remove name).2.get key = .ok result := by
  have nodes : ch.nodeReplicas ≠ [] := fun empty => by simp [empty] at present
  have occupied := entries_ne_nil_of_getWithTolerance nodes got
  rw [get_eq_head? key (formed.validNode allValid) (.inl occupied)] at got
  -- the lookup took the first virtual node of the ring from the key's hash
  have nonempty : ch.virtualNodes.ringFrom (ch.hashFunc key) ≠ [] := by
    rw [← List.length_pos_iff, SortedMap.length_ringFrom]
    exact List.length_pos_iff.mpr occupied
  obtain ⟨entry, rest, ring⟩ := List.exists_cons_of_ne_nil nonempty
  have mem : entry ∈ ch.virtualNodes.entries :=
    SortedMap.mem_ringFrom.mp (by rw [ring]; exact List.mem_cons_self)
  have stands : ch.virtualNodes.get? entry.1 = some entry.2 := SortedMap.get?_eq_some_iff.mpr mem
  obtain ⟨owner, count, stored, -⟩ := formed.placed entry.1 entry.2 stands
  rw [ring] at got
  simp only [List.head?_cons, Option.bind_some, stored, Option.map_some, Except.ok.injEq] at got
  subst got
  -- the node found is not the removed one, so neither is its virtual node
  have apart : entry.2 ≠ name := fun same =>
    other (by rw [Option.map_some, formed.named _ _ _ stored, same])
  have kept : entry.1 ∉ ch.vnodeKeys name numReplicas := fun erased => by
    obtain ⟨i, below, hashed⟩ := mem_vnodeKeys.mp erased
    have owner := owned name node numReplicas present i below
    rw [← hashed, stands] at owner
    exact apart (Option.some.inj owner)
  have formedRemoved := formed.remove name
  have validRemoved : ∀ entry ∈ (ch.remove name).2.virtualNodes.entries,
      (ch.remove name).2.validNode entry.2 = true := by
    refine formedRemoved.validNode fun other otherNode otherCount found => ?_
    rw [get?_nodeReplicas_remove] at found
    split_ifs at found
    exact allValid other otherNode otherCount found
  have standsRemoved : (ch.remove name).2.virtualNodes.get? entry.1 = some entry.2 := by
    rw [get?_virtualNodes_remove present, if_neg kept, stands]
  have occupiedRemoved : (ch.remove name).2.virtualNodes.entries ≠ [] :=
    List.ne_nil_of_mem (SortedMap.get?_eq_some_iff.mp standsRemoved)
  rw [get_eq_head? key validRemoved (.inl occupiedRemoved), hashFunc_remove,
    ringFrom_remove present, ring, List.filter_cons_of_pos (by simpa using kept)]
  simp [get?_nodeReplicas_remove, apart, stored]

/-- Adding a removed node back with its replica count restores its virtual
nodes and its entry: every lookup answers as before. -/
theorem getWithTolerance_add_remove (key : String) (tolerance : Nat) :
    ((ch.remove name).2.add node numReplicas).getWithTolerance key tolerance =
      ch.getWithTolerance key tolerance := by
  have named := formed.named name node numReplicas present
  have missing : (ch.remove name).2.nodeReplicas.get? name = none := by
    simp [get?_nodeReplicas_remove]
  have nodes (other : String) :
      ((ch.remove name).2.add node numReplicas).nodeReplicas.get? other =
        ch.nodeReplicas.get? other := by
    rw [get?_nodeReplicas_add, named, get?_nodeReplicas_remove]
    split_ifs with same
    · rw [same, present]
    · rfl
  -- the keys erased by the removal are the ones the add binds again
  have vnodes : ((ch.remove name).2.add node numReplicas).virtualNodes = ch.virtualNodes := by
    refine SortedMap.ext_get? fun positionKey => ?_
    simp only [get?_virtualNodes_add, named, remove_of_get?_eq_none missing,
      get?_virtualNodes_remove present, vnodeKeys_remove]
    split_ifs with placed
    · obtain ⟨i, below, hashed⟩ := mem_vnodeKeys.mp placed
      rw [hashed, owned name node numReplicas present i below]
    · rfl
  exact getWithTolerance_congr vnodes (by simp) nodes key tolerance

end Removal

/-- Consistency of the ring built with a hash function that tells the ids
apart, all of whose nodes are valid: removing a node leaves the lookups that did
not return it as they were, adding it back with its replica count gives every
lookup back, every virtual node names a node, and the virtual nodes of a node
with `r` replicas are exactly the `r` distinct hashes of its ids. -/
theorem get_remove_add {hashFunc : String → Key} (separates : SeparatesIds hashFunc)
    {ch : ConsistentHash N Key} (built : Built hashFunc ch)
    (allValid : ∀ name node numReplicas,
      ch.nodeReplicas.get? name = some (node, numReplicas) → Node.isValid node = true)
    {name : String} {node : N} {numReplicas : Nat}
    (present : ch.nodeReplicas.get? name = some (node, numReplicas)) :
    (∀ key result, ch.get key = .ok result → result.map Node.name ≠ some name →
        (ch.remove name).2.get key = .ok result) ∧
      (∀ key, ((ch.remove name).2.add node numReplicas).get key = ch.get key) ∧
      (∀ positionKey other, ch.virtualNodes.get? positionKey = some other →
        ∃ otherNode count, ch.nodeReplicas.get? other = some (otherNode, count)) ∧
      (∀ other otherNode count, ch.nodeReplicas.get? other = some (otherNode, count) →
        ((List.range count).map fun i => hashFunc (vnodeId other i)).Nodup ∧
          ∀ positionKey, ch.virtualNodes.get? positionKey = some other ↔
            ∃ i < count, positionKey = hashFunc (vnodeId other i)) := by
  have formed := built.wellFormed
  have owned := built.owned separates
  have hashed := built.hashFunc_eq
  refine ⟨fun key _ got other => get_remove_of_ne formed owned present allValid key got other,
    fun key => getWithTolerance_add_remove formed owned present key 0, ?_, ?_⟩
  · intro positionKey other stands
    obtain ⟨otherNode, count, stored, -⟩ := formed.placed positionKey other stands
    exact ⟨otherNode, count, stored⟩
  · intro other otherNode count stored
    refine ⟨?_, fun positionKey => ⟨fun stands => ?_, ?_⟩⟩
    · exact List.nodup_range.map fun i j same => (vnodeId_injective (separates other i other j same)).2
    · obtain ⟨storedNode, storedCount, found, i, below, placed⟩ :=
        formed.placed positionKey other stands
      rw [stored] at found
      cases found
      exact ⟨i, below, hashed ▸ placed⟩
    · rintro ⟨i, below, rfl⟩
      rw [← hashed]
      exact owned other otherNode count stored i below

/-- The node of the tests: a name and whether it is available. -/
structure ServerNode where
  name : String
  available : Bool

instance : Node ServerNode := ⟨ServerNode.name, ServerNode.available⟩

/-- Two valid nodes on a ring hashed by the identity, which keeps the ids apart. -/
def twoNodeRing : ConsistentHash ServerNode String :=
  newWithHash [(⟨"localhost:10000", true⟩, 2), (⟨"localhost:10001", true⟩, 1)] id

theorem twoNodeRing_nodeReplicas :
    twoNodeRing.nodeReplicas =
      [("localhost:10000", (⟨"localhost:10000", true⟩, 2)),
        ("localhost:10001", (⟨"localhost:10001", true⟩, 1))] := rfl

theorem get_remove_add_twoNodeRing :
    ((twoNodeRing.remove "localhost:10000").2.add ⟨"localhost:10000", true⟩ 2).get "1" =
      twoNodeRing.get "1" :=
  (get_remove_add (fun _ _ _ _ same => same) (show Built id twoNodeRing from .new _)
    (fun name node numReplicas found => by
      rw [twoNodeRing_nodeReplicas] at found
      simp only [Table.get?] at found
      split_ifs at found <;> cases found <;> rfl)
    (by rw [twoNodeRing_nodeReplicas]; rfl)).2.1 "1"

end ConsistentHash

end Ballista
