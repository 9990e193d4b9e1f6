import LedgerWatch.Ledger.Basic
import Mathlib.Logic.Relation
import Mathlib.Tactic.Lemma

/-!
# How a ledger grows

A ledger in memory changes only by blocks that are appended under new identifiers and by becoming
unavailable or available again. Its blocks then stand at the heights 1, 2, ... without a gap, its
index finds each of them, and a block that stands at a height stands there for good.

The main statements are `Sound.grows` (soundness is kept by growth), `Sound.blocksAfter` (the blocks
after a mark are the rest of the chain above its height) and `Stands.grows`.
-/

namespace LedgerWatch.Ledger

variable {l l' : Ledger} {id mark : BlockId} {transactions : List Transaction} {n m : Nat}

/-- An identifier that no block of the ledger bears, nor the root. -/
structure Fresh (l : Ledger) (id : BlockId) : Prop where
  ne_root : id ≠ .root
  ne_block : ∀ b ∈ l.blocks, b.id ≠ id

/-- One change of a ledger in memory. -/
inductive Step : Ledger → Ledger → Prop where
  | append {l : Ledger} {id : BlockId} (transactions : List Transaction) :
    l.Fresh id →
    Step l (l.append id transactions)
  | setUnavailable {l : Ledger} (reason : Option String) :
    Step l (l.setUnavailable reason)

/-- Any number of changes of a ledger in memory. -/
def Grows : Ledger → Ledger → Prop :=
  Relation.ReflTransGen Step

/-- The blocks stand at the heights 1, 2, ... under names of their own, and the index finds them. -/
structure Sound (l : Ledger) : Prop where
  height : ∀ i b, l.blocks[i]? = some b → b.height = i + 1
  position : ∀ id i, l.positions.get? id = some i ↔ ∃ b, l.blocks[i]? = some b ∧ b.id = id
  ne_root : ∀ b ∈ l.blocks, b.id ≠ .root

/-- A block with an identifier stands at a height; the root stands at height 0. -/
inductive Stands (l : Ledger) : BlockId → Nat → Prop where
  | root :
    Stands l .root 0
  | block {b : Block} :
    b ∈ l.blocks →
    Stands l b.id b.height

@[simp] lemma blocks_canonize (block : BlockId) (l : Ledger) (tx : Transaction) :
    (canonize block l tx).blocks = l.blocks :=
  rfl

/-- An appended block comes last. -/
@[simp] lemma blocks_append :
    (l.append id transactions).blocks = l.blocks ++ [l.nextBlock id transactions] :=
  rfl

/-- The index of an appended ledger. -/
@[simp] lemma positions_append :
    (l.append id transactions).positions = l.positions.insert id l.blocks.length :=
  rfl

/-- An empty ledger is sound. -/
lemma Sound.empty : Sound {} where
  height i b h := by simp at h
  position id i := by simp
  ne_root b h := by simp at h

/-- Being unavailable does not touch the chain. -/
lemma Sound.setUnavailable (h : l.Sound) (reason : Option String) :
    (l.setUnavailable reason).Sound :=
  ⟨h.height, h.position, h.ne_root⟩

/-- A block appended under a fresh identifier keeps a ledger sound. -/
lemma Sound.append (h : l.Sound) (fresh : l.Fresh id) (transactions : List Transaction) :
    (l.append id transactions).Sound where
  height i b hb := by
    rw [blocks_append] at hb
    rcases Nat.lt_or_ge i l.blocks.length with hi | hi
    · rw [List.getElem?_append_left hi] at hb
      exact h.height i b hb
    · rw [List.getElem?_append_right hi] at hb
      obtain ⟨hi', rfl⟩ := List.getElem?_eq_some_iff.1 hb
      have : i = l.blocks.length := by simp at hi'; omega
      subst this
      simp [nextBlock]
  position other i := by
    rw [positions_append, Index.get?_insert, blocks_append]
    by_cases e : other = id
    · subst e
      rw [if_pos rfl]
      constructor
      · intro hi
        obtain rfl := Option.some.inj hi
        exact ⟨_, List.getElem?_concat_length, rfl⟩
      · rintro ⟨b, hb, rfl⟩
        rcases Nat.lt_or_ge i l.blocks.length with hi | hi
        · rw [List.getElem?_append_left hi] at hb
          exact absurd rfl (fresh.ne_block b (List.mem_of_getElem? hb))
        · rw [List.getElem?_append_right hi] at hb
          obtain ⟨hi', -⟩ := List.getElem?_eq_some_iff.1 hb
          simp only [List.length_cons, List.length_nil] at hi'
          exact congrArg some (by omega)
    · rw [if_neg e, h.position other i]
      constructor
      · rintro ⟨b, hb, rfl⟩
        obtain ⟨hi, -⟩ := List.getElem?_eq_some_iff.1 hb
        exact ⟨b, by rw [List.getElem?_append_left hi, hb], rfl⟩
      · rintro ⟨b, hb, rfl⟩
        rcases Nat.lt_or_ge i l.blocks.length with hi | hi
        · rw [List.getElem?_append_left hi] at hb
          exact ⟨b, hb, rfl⟩
        · rw [List.getElem?_append_right hi] at hb
          obtain ⟨hi', rfl⟩ := List.getElem?_eq_some_iff.1 hb
          exact absurd (by simp [nextBlock]) e
  ne_root b hb := by
    rw [blocks_append, List.mem_append, List.mem_singleton] at hb
    rcases hb with hb | rfl
    · exact h.ne_root b hb
    · exact fresh.ne_root

/-- Soundness is kept by growth. -/
lemma Sound.grows (h : l.Sound) (g : l.Grows l') : l'.Sound := by
  induction g with
  | refl => exact h
  | tail _ step ih =>
    cases step with
    | append transactions fresh => exact ih.append fresh transactions
    | setUnavailable reason => exact ih.setUnavailable reason

/-- The chain of a ledger is a beginning of the chain that it grows to. -/
lemma Grows.blocks_prefix (g : l.Grows l') : l.blocks <+: l'.blocks := by
  induction g with
  | refl => exact List.prefix_refl _
  | tail _ step ih =>
    cases step with
    | append transactions fresh => exact ih.trans (List.prefix_append _ _)
    | setUnavailable reason => exact ih

/-- A block stands where it stands for good. -/
lemma Stands.grows (h : l.Stands id n) (g : l.Grows l') : l'.Stands id n := by
  cases h with
  | root => exact .root
  | block hb => exact .block (g.blocks_prefix.subset hb)

/-- A block of a sound ledger is found at its height. -/
lemma Sound.getElem?_height (h : l.Sound) {b : Block} (hb : b ∈ l.blocks) :
    ∃ i, l.blocks[i]? = some b ∧ b.height = i + 1 := by
  obtain ⟨i, hi⟩ := List.mem_iff_getElem?.1 hb
  exact ⟨i, hi, h.height i b hi⟩

/-- An identifier stands at one height only. -/
lemma Sound.stands_unique (h : l.Sound) (hn : l.Stands id n) (hm : l.Stands id m) : n = m := by
  generalize e : id = other at hm
  cases hn with
  | root =>
    cases hm with
    | root => rfl
    | block hb => exact absurd e.symm (h.ne_root _ hb)
  | block hb =>
    cases hm with
    | root => exact absurd e (h.ne_root _ hb)
    | block hc =>
      obtain ⟨i, hi, eb⟩ := h.getElem?_height hb
      obtain ⟨j, hj, ec⟩ := h.getElem?_height hc
      have pi := (h.position _ i).2 ⟨_, hi, rfl⟩
      have pj := (h.position _ j).2 ⟨_, hj, e.symm⟩
      rw [pi] at pj
      have := Option.some.inj pj
      omega

/-- At one height stands one identifier only. -/
lemma Sound.stands_inj (h : l.Sound) {other : BlockId} (hid : l.Stands id n)
    (hother : l.Stands other n) : id = other := by
  generalize e : n = m at hother
  cases hid with
  | root =>
    cases hother with
    | root => rfl
    | block hc =>
      obtain ⟨j, -, ec⟩ := h.getElem?_height hc
      omega
  | block hb =>
    obtain ⟨i, hi, eb⟩ := h.getElem?_height hb
    cases hother with
    | root => omega
    | block hc =>
      obtain ⟨j, hj, ec⟩ := h.getElem?_height hc
      obtain rfl : i = j := by omega
      rw [hi] at hj
      rw [Option.some.inj hj]

/-- A ledger that has given an answer is available. -/
lemma available_of_answer {α : Type} {result : Except LedgerError α} {a : α}
    (given : l.answer result = .ok a) : l.unavailable = none := by
  unfold answer at given
  split at given
  · cases given
  · assumption

/-- A ledger that is available answers. -/
lemma answer_of_available {α : Type} (available : l.unavailable = none)
    (result : Except LedgerError α) : l.answer result = result := by
  rw [answer, available]

/-- The blocks that are found after a mark are the chain above the height at which it stands. -/
lemma Sound.blocksAfter (h : l.Sound) {blocks : List Block}
    (found : l.blocksAfter mark = .ok blocks) :
    ∃ n, l.Stands mark n ∧ blocks = l.blocks.drop n := by
  unfold Ledger.blocksAfter answer at found
  split at found
  · cases found
  · split at found
    · rename_i zero
      cases found
      obtain rfl := Identifier.isZero_iff.1 zero
      exact ⟨0, .root, rfl⟩
    · split at found
      · rename_i position at_
        cases found
        obtain ⟨b, hb, rfl⟩ := (h.position _ _).1 at_
        refine ⟨position + 1, ?_, rfl⟩
        rw [← h.height _ _ hb]
        exact .block (List.mem_of_getElem? hb)
      · cases found

/-- A block that is found under an identifier is in the chain and bears it. -/
lemma Sound.block? (h : l.Sound) {b : Block} (found : l.block? id = .ok (some b)) :
    b ∈ l.blocks ∧ b.id = id := by
  unfold Ledger.block? answer at found
  split at found
  · cases found
  · obtain ⟨position, at_, hb⟩ := Option.bind_eq_some_iff.1 (Except.ok.inj found)
    obtain ⟨c, hc, rfl⟩ := (h.position _ _).1 at_
    rw [hb] at hc
    obtain rfl := Option.some.inj hc
    exact ⟨List.mem_of_getElem? hb, rfl⟩

/-- A block that stands in the chain is found under its identifier. -/
lemma Sound.block?_of_mem (h : l.Sound) {b : Block} (hb : b ∈ l.blocks) :
    l.block? b.id = l.answer (.ok (some b)) := by
  obtain ⟨i, hi, -⟩ := h.getElem?_height hb
  rw [Ledger.block?, (h.position _ _).2 ⟨b, hi, rfl⟩, Option.bind_some, hi]

/-- The first block above a height stands one higher. -/
lemma Sound.height_of_drop (h : l.Sound) {b : Block} {rest : List Block}
    (e : l.blocks.drop n = b :: rest) :
    b ∈ l.blocks ∧ b.height = n + 1 ∧ rest = l.blocks.drop (n + 1) := by
  have hb : l.blocks[n]? = some b := by
    rw [← List.head?_drop, e, List.head?_cons]
  refine ⟨List.mem_of_getElem? hb, h.height n b hb, ?_⟩
  rw [← List.tail_drop, e, List.tail_cons]

/-- The last block stands as high as the chain is long. -/
lemma Sound.stands_lastBlock (h : l.Sound) : l.Stands l.lastBlock l.blocks.length := by
  unfold lastBlock
  cases last : l.blocks.getLast? with
  | none =>
    rw [List.getLast?_eq_none_iff] at last
    rw [last]
    exact .root
  | some b =>
    rw [List.getLast?_eq_getElem?] at last
    have nonempty := List.length_pos_of_mem (List.mem_of_getElem? last)
    have height := h.height _ b last
    rw [Nat.sub_add_cancel nonempty] at height
    rw [← height]
    exact .block (List.mem_of_getElem? last)

/-- The chain above a height consists of the blocks that stand higher. -/
lemma Sound.drop_eq_filter (h : l.Sound) (n : Nat) :
    l.blocks.drop n = l.blocks.filter fun b => n < b.height := by
  have low : (l.blocks.take n).filter (fun b => n < b.height) = [] := by
    rw [List.filter_eq_nil_iff]
    intro b mem
    obtain ⟨i, hi, rfl⟩ := List.mem_take_iff_getElem.1 mem
    have height := h.height i _ (List.getElem?_eq_getElem (by omega))
    simp only [decide_eq_true_eq]
    omega
  have high : (l.blocks.drop n).filter (fun b => n < b.height) = l.blocks.drop n := by
    rw [List.filter_eq_self]
    intro b mem
    obtain ⟨i, hi, rfl⟩ := List.mem_drop_iff_getElem.1 mem
    have height := h.height (n + i) _ (List.getElem?_eq_getElem (Nat.add_comm i n ▸ hi))
    simp only [decide_eq_true_eq]
    omega
  calc l.blocks.drop n
      = (l.blocks.take n ++ l.blocks.drop n).filter (fun b => n < b.height) := by
        rw [List.filter_append, low, high, List.nil_append]
    _ = l.blocks.filter (fun b => n < b.height) := by rw [List.take_append_drop]

lemma Sound.position_lt (h : l.Sound) {i : Nat} (found : l.positions.get? id = some i) :
    i < l.blocks.length := by
  obtain ⟨b, hb, -⟩ := (h.position id i).1 found
  exact (List.getElem?_eq_some_iff.1 hb).1

/-- The index of blocks knows no identifier that no block bears. -/
lemma Sound.position_eq_none (h : l.Sound) (unknown : ∀ b ∈ l.blocks, b.id ≠ id) :
    l.positions.get? id = none := by
  cases found : l.positions.get? id with
  | none => rfl
  | some i =>
    obtain ⟨b, hb, same⟩ := (h.position id i).1 found
    exact absurd same (unknown b (List.mem_of_getElem? hb))

/-- Blocks of the chain whose heights are 1, 2, ... are the beginning of the chain. -/
lemma Sound.eq_take (h : l.Sound) {blocks : List Block} (sub : ∀ b ∈ blocks, b ∈ l.blocks)
    (heights : blocks.map Block.height = List.range' 1 n) : blocks = l.blocks.take n := by
  have length : blocks.length = n := by simpa using congrArg List.length heights
  apply List.ext_getElem?
  intro i
  rcases Nat.lt_or_ge i n with lt | ge
  · obtain ⟨b, hb⟩ : ∃ b, blocks[i]? = some b := ⟨_, List.getElem?_eq_getElem (length ▸ lt)⟩
    have height : b.height = i + 1 := by
      have at_ := congrArg (fun hs => hs[i]?) heights
      simp only [List.getElem?_map, hb, Option.map_some] at at_
      rw [List.getElem?_range' lt] at at_
      have := Option.some.inj at_
      omega
    obtain ⟨j, hj, height'⟩ := h.getElem?_height (sub b (List.mem_of_getElem? hb))
    obtain rfl : i = j := by omega
    rw [hb, List.getElem?_take_of_lt lt, hj]
  · rw [List.getElem?_eq_none (length ▸ ge), List.getElem?_eq_none]
    exact Nat.le_trans (List.length_take_le n _) ge

end LedgerWatch.Ledger
