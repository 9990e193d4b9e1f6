import LedgerWatch.Proofs.Ledger.PointInTime
import LedgerWatch.Proofs.Program.Beside
import Mathlib.Tactic.Simps.Basic

/-!
# The history of an artifact while the ledger fails at times

Any question of a history may fail, or be answered by nothing although there is something. Most of
that is an error, but an artifact without a last transaction has an empty history, and a transaction
above the horizon that has no predecessor ends the walk. The walk goes down the chain: as long as it
is above the horizon nothing was found yet, and so nothing is left of a history that ends too early.

The main statement is `finds_all_or_nothing`. What was answered by nothing is noted beside the world
(`LedgerReads.noted`), which has no influence on what is found (`follows_find`).
-/

namespace LedgerWatch

open Ledger (Weaves Woven Stands)

variable {W α β : Type}

/--
Whatever is found by a question is in the ledger as it is meanwhile; blocks come before and after
it. The question may as well fail, or find nothing.
-/
def Ledger.Reveals (chain : W → Ledger) (found : β → α)
    (question : Program W (Except LedgerError α)) (answer : Ledger → Except LedgerError α) : Prop :=
  ∀ w, ∃ l, (chain w).Weaves l ∧ l.Weaves (chain (question.run w).2) ∧
    ∀ b, (question.run w).1 = .ok (found b) → answer l = .ok (found b)

/-- The questions of a history find nothing that is not in a ledger in the world. -/
structure LedgerReads.Faulty (reads : LedgerReads W) (chain : W → Ledger) : Prop where
  latest : Ledger.Reveals chain id reads.latest Ledger.latest
  block? : ∀ id, Ledger.Reveals chain some (reads.block? id) (·.block? id)
  transaction? : ∀ id, Ledger.Reveals chain some (reads.transaction? id) (·.transaction? id)
  blockOf? : ∀ id, Ledger.Reveals chain some (reads.blockOf? id) (·.blockOf? id)
  head? : ∀ id, Ledger.Reveals chain some (reads.head? id) (·.head? id)
  previous? : ∀ id, Ledger.Reveals chain some (reads.previous? id) (·.previous? id)

/-- What was asked for, when the answer was nothing. -/
inductive Absence where
  | block (id : BlockId)
  | transaction (id : TransactionId)
  | blockOf (id : TransactionId)
  | head (artifact : ArtifactId)
  | previous (id : TransactionId)
deriving DecidableEq

namespace Absence

/-- Writes down an answer that was nothing. -/
def jot (x : Absence) : Except LedgerError (Option α) → List Absence → List Absence
  | .ok none, absences => absences ++ [x]
  | _, absences => absences

/-- A question of which it is noted when the answer is nothing. -/
def note (x : Absence) (question : Program W (Except LedgerError (Option α))) :
    Program (W × List Absence) (Except LedgerError (Option α)) :=
  question.beside.bind fun answer =>
    (Program.modify Part.snd (x.jot answer)).bind fun _ => .done answer

/-- A question that is noted is asked once, and jotted down if nothing is found. -/
lemma run_note (x : Absence) (question : Program W (Except LedgerError (Option α))) (w : W)
    (absences : List Absence) : (x.note question).run (w, absences)
      = ((question.run w).1, (question.run w).2, x.jot (question.run w).1 absences) := by
  rw [note, Program.run_bind, Program.run_beside]
  rfl

/-- A question is answered the same whether it is noted or not. -/
lemma note_follows (x : Absence) (question : Program W (Except LedgerError (Option α))) :
    (x.note question).Follows question := by
  have noted : (x.note question).Follows (question.bind .done) :=
    .bind (.beside question) fun answer => .note _ (.done answer)
  rwa [Program.bind_done] at noted

end Absence

/-- The questions to a ledger, with notes beside the world of what was answered by nothing. -/
@[simps]
def LedgerReads.noted (reads : LedgerReads W) : LedgerReads (W × List Absence) where
  latest := reads.latest.beside
  blocksAfter id := (reads.blocksAfter id).beside
  block? id := (Absence.block id).note (reads.block? id)
  transaction? id := (Absence.transaction id).note (reads.transaction? id)
  blockOf? id := (Absence.blockOf id).note (reads.blockOf? id)
  head? id := (Absence.head id).note (reads.head? id)
  previous? id := (Absence.previous id).note (reads.previous? id)

namespace Ledger

variable {l : Ledger} {artifact : ArtifactId}

/-- What a ledger gives in answer it gives when it can be asked. -/
lemma eq_of_answer {result : Except LedgerError α} {a : α} (given : l.answer result = .ok a) :
    result = .ok a := by
  rwa [answer, available_of_answer given] at given

/-- The canonized transactions stand in ascending blocks. -/
lemma Sound.canonized_pairwise (h : l.Sound) :
    l.canonized.Pairwise fun d e => d.2.height ≤ e.2.height := by
  rw [canonized, List.pairwise_flatMap]
  constructor
  · intro b _
    rw [List.pairwise_map]
    exact List.pairwise_of_forall fun _ _ => le_refl b.height
  · rw [List.pairwise_iff_getElem]
    intro i j hi hj lt d hd e he
    obtain ⟨_, -, rfl⟩ := List.mem_map.1 hd
    obtain ⟨_, -, rfl⟩ := List.mem_map.1 he
    have low := h.height i _ (List.getElem?_eq_getElem hi)
    have high := h.height j _ (List.getElem?_eq_getElem hj)
    dsimp only
    omega

/-- From the last transaction of an artifact on, a thread never leads to a higher block. -/
lemma Sound.thread_pairwise (h : l.Sound) (artifact : ArtifactId) :
    (thread artifact l.canonized).Pairwise fun e d => d.2.height ≤ e.2.height := by
  rw [thread, List.pairwise_reverse]
  exact h.canonized_pairwise.filter _

/-- A canonized transaction stands in a block of the chain. -/
lemma mem_blocks_of_canonized {e : Transaction × Block} (mem : e ∈ l.canonized) :
    e.2 ∈ l.blocks := by
  obtain ⟨b, hb, mem⟩ := List.mem_flatMap.1 mem
  obtain ⟨tx, -, rfl⟩ := List.mem_map.1 mem
  exact hb

end Ledger

namespace History

open Ledger (kept thread)

variable {reads : LedgerReads W} {chain : W → Ledger} {w : W} {absences : List Absence}
  {e : Transaction × Block} {n : Nat}

/-! ### The notes have no influence -/

lemma follows_heightOf (reads : LedgerReads W) (id : BlockId) :
    (heightOf reads.noted id).Follows (heightOf reads id) := by
  rw [heightOf, heightOf]
  split
  · exact .done _
  · refine .bind ((Absence.block id).note_follows _) fun answer => ?_
    rcases answer with e | _ | b <;> exact .done _

lemma follows_visit (reads : LedgerReads W) (horizon : Nat) (id : TransactionId) :
    (visit reads.noted horizon id).Follows (visit reads horizon id) := by
  refine .bind ((Absence.blockOf id).note_follows _) fun answer => ?_
  rcases answer with e | _ | block
  · exact .done _
  · exact .done _
  · refine .bind (follows_heightOf reads block) fun height => ?_
    rcases height with e | height
    · exact .done _
    · dsimp only
      split
      · refine .bind ((Absence.previous id).note_follows _) fun answer => ?_
        rcases answer with e | previous <;> exact .done _
      · refine .bind ((Absence.transaction id).note_follows _) fun answer => ?_
        rcases answer with e | _ | tx <;> exact .done _

lemma follows_follow (reads : LedgerReads W) (horizon limit : Nat) (id : TransactionId)
    (later : List Transaction) :
    (follow reads.noted horizon limit id later).Follows (follow reads horizon limit id later) := by
  induction limit generalizing id later with
  | zero => exact .done _
  | succ limit ih =>
    refine .bind (follows_visit reads horizon id) fun visited => ?_
    rcases visited with e | ⟨found, _ | previous⟩
    · exact .done _
    · exact .done _
    · dsimp only
      split
      · exact .done _
      · exact ih previous _

lemma follows_upTo (reads : LedgerReads W) (limit : Nat) (artifact : ArtifactId) (horizon : Nat) :
    (upTo reads.noted limit artifact horizon).Follows (upTo reads limit artifact horizon) := by
  refine .bind ((Absence.head artifact).note_follows _) fun answer => ?_
  rcases answer with e | _ | head
  · exact .done _
  · exact .done _
  · exact follows_follow reads horizon limit head []

/-- What is noted has no influence on what is found. -/
lemma follows_find (reads : LedgerReads W) (limit : Nat) (artifact : ArtifactId)
    (last : Option BlockId) :
    (find reads.noted limit artifact last).Follows (find reads limit artifact last) := by
  have latest : (latestOf reads.noted last).Follows (latestOf reads last) := by
    cases last with
    | none => exact .beside _
    | some id => exact .done _
  refine .bind latest fun latest => ?_
  rcases latest with e | latest
  · exact .done _
  · refine .bind (follows_heightOf reads latest) fun height => ?_
    rcases height with e | horizon
    · exact .done _
    · refine .bind (follows_upTo reads limit artifact horizon) fun found => ?_
      rcases found with _ | e | transactions <;> exact .done _

/-! ### What is found -/

/-- Blocks were appended, and no note was lost. -/
structure Onward (chain : W → Ledger) (s s' : W × List Absence) : Prop where
  weaves : (chain s.1).Weaves (chain s'.1)
  notes : s.2 ⊆ s'.2

lemma Onward.trans {s s' s'' : W × List Absence} (h : Onward chain s s')
    (k : Onward chain s' s'') : Onward chain s s'' :=
  ⟨h.weaves.trans k.weaves, fun _ mem => k.notes (h.notes mem)⟩

/-- The answer to a question: an error, nothing, or something of a kind. -/
inductive Answered (x : Absence) (absences : List Absence) (kind : α → Prop) :
    Except LedgerError (Option α) → Prop where
  | error (e : LedgerError) :
    Answered x absences kind (.error e)
  | absent :
    x ∈ absences →
    Answered x absences kind (.ok none)
  | found {a : α} :
    kind a →
    Answered x absences kind (.ok (some a))

/-- A question that is noted is answered by something in the ledger, or there is a note. -/
lemma run_asked {x : Absence} {question : Program W (Except LedgerError (Option α))}
    {answer : Ledger → Except LedgerError (Option α)}
    (h : Ledger.Reveals chain some question answer) (woven : (chain w).Woven)
    (absences : List Absence) :
    ∃ r s, (x.note question).run (w, absences) = (r, s) ∧ Onward chain (w, absences) s ∧
      Answered x s.2 (fun a => ∃ l, l.Woven ∧ (chain w).Weaves l ∧ l.Weaves (chain s.1) ∧
        answer l = .ok (some a)) r := by
  obtain ⟨l, before, after, reveals⟩ := h w
  refine ⟨_, _, x.run_note question w absences, ⟨before.trans after, ?_⟩, ?_⟩
  · rcases (question.run w).1 with e | _ | a
    · exact List.Subset.refl _
    · exact List.subset_append_left _ _
    · exact List.Subset.refl _
  · generalize (question.run w).1 = r at reveals
    rcases r with e | _ | a
    · exact .error e
    · exact .absent (List.mem_append_right _ List.mem_cons_self)
    · exact .found ⟨l, woven.weaves before, before, after, reveals a rfl⟩

/-- A transaction above the horizon whose predecessor was answered by nothing. -/
def Lost (n : Nat) (e : Transaction × Block) (absences : List Absence) : Prop :=
  n < e.2.height ∧ .previous e.1.id ∈ absences

/-- What a visit to a canonized transaction comes to. -/
inductive Visited (n : Nat) (e : Transaction × Block) (absences : List Absence) :
    Except LedgerError Visit → Prop where
  | error (err : LedgerError) :
    Visited n e absences (.error err)
  | passed {found : Option Transaction} :
    found = (if e.2.height ≤ n then some e.1 else none) →
    Visited n e absences (.ok ⟨found, some e.1.previous⟩)
  | lost :
    Lost n e absences →
    Visited n e absences (.ok ⟨none, none⟩)

/-- What the walk along a thread comes to: an error, all that is to be kept, or nothing at all. -/
inductive Walked (n : Nat) (older : List (Transaction × Block)) (later : List Transaction)
    (absences : List Absence) : Except LedgerError (List Transaction) → Prop where
  | error (err : LedgerError) :
    Walked n older later absences (.error err)
  | all :
    Walked n older later absences (.ok (kept n older ++ later))
  | nothing {d : Transaction × Block} :
    d ∈ older →
    Lost n d absences →
    Walked n older later absences (.ok [])

/-- A visit before the rest of a walk is part of the walk. -/
lemma Walked.of_cons {n : Nat} {older : List (Transaction × Block)} {later : List Transaction}
    {absences : List Absence} {r : Except LedgerError (List Transaction)}
    (h : Walked n older ((if e.2.height ≤ n then some e.1 else none).toList ++ later) absences r) :
    Walked n (e :: older) later absences r := by
  cases h with
  | error err => exact .error err
  | all =>
    rw [← List.append_assoc, ← Ledger.kept_cons]
    exact .all
  | nothing mem lost => exact .nothing (List.mem_cons_of_mem _ mem) lost

/--
All transactions of an artifact up to a height, or nothing; nothing instead of something only when
the last transaction of the artifact, or the predecessor of one above the height, was answered by
nothing.
-/
def Found (chain : W → Ledger) (n : Nat) (artifact : ArtifactId) (s : W × List Absence)
    (transactions : List Transaction) : Prop :=
  transactions = (chain s.1).transactionsOf artifact n ∨
    transactions = [] ∧ (.head artifact ∈ s.2 ∨
      ∃ e ∈ (chain s.1).canonized, e.1.artifact = artifact ∧ Lost n e s.2)

section

variable (hr : reads.Faulty chain)

include hr

/-- A height that is found is the one at which the block stands. -/
lemma run_heightOf_noted (woven : (chain w).Woven) (absences : List Absence) (id : BlockId) :
    ∃ r s, (heightOf reads.noted id).run (w, absences) = (r, s) ∧
      Onward chain (w, absences) s ∧ ∀ n, r = .ok n → (chain s.1).Stands id n := by
  by_cases zero : id.isZero = true
  · refine ⟨.ok 0, (w, absences), by rw [heightOf, if_pos zero]; rfl,
      ⟨.refl, List.Subset.refl _⟩, ?_⟩
    rintro _ ⟨⟩
    obtain rfl := Identifier.isZero_iff.1 zero
    exact .root
  · obtain ⟨answer, s, run, onward, answered⟩ :=
      run_asked (x := .block id) (hr.block? id) woven absences
    rw [heightOf, if_neg zero, Program.bind_eq, Program.run_bind, LedgerReads.noted_block?, run]
    cases answered with
    | error e => exact ⟨_, s, rfl, onward, fun _ failed => by cases failed⟩
    | absent _ => exact ⟨_, s, rfl, onward, fun _ failed => by cases failed⟩
    | @found b known =>
      obtain ⟨l, hl, -, after, told⟩ := known
      obtain ⟨mem, rfl⟩ := hl.sound.block? told
      refine ⟨_, s, rfl, onward, ?_⟩
      rintro _ ⟨⟩
      exact .block (after.grows.blocks_prefix.subset mem)

/-- A canonized transaction that is visited is found or passed over, or its predecessor is lost. -/
lemma run_visit_noted (woven : (chain w).Woven) (mem : e ∈ (chain w).canonized)
    (absences : List Absence) (n : Nat) :
    ∃ r s, (visit reads.noted n e.1.id).run (w, absences) = (r, s) ∧
      Onward chain (w, absences) s ∧ Visited n e s.2 r := by
  -- every ledger from here on has the transaction under its identifier
  have known {l : Ledger} (hl : l.Woven) (g : (chain w).Weaves l) :
      l.transactions.get? e.1.id = some (e.1, e.2.id) :=
    hl.indexed.found e (g.canonized_prefix.subset mem)
  obtain ⟨answer, ⟨w₁, absences₁⟩, run, first, answered⟩ :=
    run_asked (x := .blockOf e.1.id) (hr.blockOf? e.1.id) woven absences
  rw [visit, Program.bind_eq, Program.run_bind, LedgerReads.noted_blockOf?, run]
  cases answered with
  | error err => exact ⟨_, _, rfl, first, .error err⟩
  | absent _ => exact ⟨_, _, rfl, first, .error _⟩
  | found told =>
    obtain ⟨l, hl, before, after, told⟩ := told
    have block := Except.ok.inj (Ledger.eq_of_answer told)
    rw [known hl before] at block
    obtain rfl := Option.some.inj block
    have woven₁ := woven.weaves first.weaves
    obtain ⟨height, ⟨w₂, absences₂⟩, run, second, stands⟩ :=
      run_heightOf_noted hr woven₁ absences₁ e.2.id
    have both := first.trans second
    have woven₂ := woven.weaves both.weaves
    dsimp only
    rw [Program.bind_eq, Program.run_bind, run]
    rcases height with err | height
    · exact ⟨_, _, rfl, both, .error err⟩
    -- a block stands at one height only, and this one is in the chain
    obtain rfl : height = e.2.height := by
      have here := Ledger.mem_blocks_of_canonized (both.weaves.canonized_prefix.subset mem)
      exact woven₂.sound.stands_unique (stands height rfl) (.block here)
    dsimp only
    split
    case isTrue high =>
      obtain ⟨answer, s, run, third, answered⟩ :=
        run_asked (x := .previous e.1.id) (hr.previous? e.1.id) woven₂ absences₂
      rw [Program.bind_eq, Program.run_bind, LedgerReads.noted_previous?, run]
      cases answered with
      | error err => exact ⟨_, _, rfl, both.trans third, .error err⟩
      | absent noted => exact ⟨_, _, rfl, both.trans third, .lost ⟨high, noted⟩⟩
      | found told =>
        obtain ⟨l, hl, before, -, told⟩ := told
        have previous := Except.ok.inj (Ledger.eq_of_answer told)
        rw [known hl (both.weaves.trans before)] at previous
        obtain rfl := Option.some.inj previous
        exact ⟨_, _, rfl, both.trans third, .passed (if_neg (Nat.not_le.2 high)).symm⟩
    case isFalse low =>
      obtain ⟨answer, s, run, third, answered⟩ :=
        run_asked (x := .transaction e.1.id) (hr.transaction? e.1.id) woven₂ absences₂
      rw [Program.bind_eq, Program.run_bind, LedgerReads.noted_transaction?, run]
      cases answered with
      | error err => exact ⟨_, _, rfl, both.trans third, .error err⟩
      | absent _ => exact ⟨_, _, rfl, both.trans third, .error _⟩
      | found told =>
        obtain ⟨l, hl, before, -, told⟩ := told
        have tx := Except.ok.inj (Ledger.eq_of_answer told)
        rw [known hl (both.weaves.trans before)] at tx
        obtain rfl := Option.some.inj tx
        exact ⟨_, _, rfl, both.trans third, .passed (if_pos (Nat.not_lt.1 low)).symm⟩

/-- While the walk is above the horizon nothing was found yet. -/
lemma run_follow_noted (woven : (chain w).Woven) (absences : List Absence)
    (older : List (Transaction × Block)) (linked : Ledger.Linked (e :: older))
    (descends : (e :: older).Pairwise fun d d' => d'.2.height ≤ d.2.height)
    (mem : ∀ d ∈ e :: older, d ∈ (chain w).canonized) {n : Nat} {later : List Transaction}
    (empty : n < e.2.height → later = []) {limit : Nat} (enough : older.length < limit) :
    ∃ r s, (follow reads.noted n limit e.1.id later).run (w, absences) = (some r, s) ∧
      Onward chain (w, absences) s ∧ Walked n (e :: older) later s.2 r := by
  -- by induction on the rest of the thread, which no block that is appended meanwhile can change
  induction older generalizing e w absences later limit with
  | nil =>
    obtain ⟨-, previous, -⟩ := linked
    obtain ⟨limit, rfl⟩ := Nat.exists_eq_succ_of_ne_zero (Nat.ne_of_gt enough)
    obtain ⟨r, s, run, onward, visited⟩ :=
      run_visit_noted hr woven (mem e List.mem_cons_self) absences n
    rw [follow, Program.bind_eq, Program.run_bind, run]
    cases visited with
    | error err => exact ⟨_, _, rfl, onward, .error err⟩
    | passed found =>
      subst found
      have initial : e.1.previous.isZero = true := by
        rw [previous]
        rfl
      dsimp only
      rw [if_pos initial]
      exact ⟨_, _, rfl, onward, .of_cons .all⟩
    | lost lost =>
      obtain rfl := empty lost.1
      exact ⟨_, _, rfl, onward, .nothing List.mem_cons_self lost⟩
  | cons d older ih =>
    obtain ⟨-, previous, linked⟩ := linked
    obtain ⟨below, descends⟩ := List.pairwise_cons.1 descends
    obtain ⟨limit, rfl⟩ := Nat.exists_eq_succ_of_ne_zero (Nat.ne_of_gt (Nat.zero_lt_of_lt enough))
    obtain ⟨r, ⟨v, absences'⟩, run, onward, visited⟩ :=
      run_visit_noted hr woven (mem e List.mem_cons_self) absences n
    rw [follow, Program.bind_eq, Program.run_bind, run]
    cases visited with
    | error err => exact ⟨_, _, rfl, onward, .error err⟩
    | passed found =>
      subst found
      have named : e.1.previous = d.1.id := previous
      have further : ¬d.1.id.isZero = true := fun zero =>
        linked.1 (Identifier.isZero_iff.1 zero)
      have mem' : ∀ d' ∈ d :: older, d' ∈ (chain v).canonized := fun d' hd =>
        onward.weaves.canonized_prefix.subset (mem d' (List.mem_cons_of_mem _ hd))
      -- heights never increase along the thread, so what leads above the horizon was above it too
      have empty' (high : n < d.2.height) :
          (if e.2.height ≤ n then some e.1 else none).toList ++ later = [] := by
        have higher := Nat.lt_of_lt_of_le high (below d List.mem_cons_self)
        rw [if_neg (Nat.not_le.2 higher), empty higher]
        rfl
      obtain ⟨r, s, walk, further', walked⟩ := ih (woven.weaves onward.weaves) absences' linked
        descends mem' empty' (Nat.lt_of_succ_lt_succ enough)
      dsimp only
      rw [named, if_neg further]
      exact ⟨r, s, walk, onward.trans further', walked.of_cons⟩
    | lost lost =>
      obtain rfl := empty lost.1
      exact ⟨_, _, rfl, onward, .nothing List.mem_cons_self lost⟩

/-- The history up to a height is complete or lost, whatever fails. -/
lemma run_upTo_noted (woven : (chain w).Woven) (absences : List Absence) {id : BlockId}
    (stands : (chain w).Stands id n) (artifact : ArtifactId) :
    ∃ enough, ∀ limit, enough ≤ limit → ∃ r s,
      (upTo reads.noted limit artifact n).run (w, absences) = (some r, s) ∧
      Onward chain (w, absences) s ∧ ∀ transactions, r = .ok transactions →
        Found chain n artifact s transactions := by
  obtain ⟨answer, ⟨v, absences'⟩, run, onward, answered⟩ :=
    run_asked (x := .head artifact) (hr.head? artifact) woven absences
  cases answered with
  | error e =>
    refine ⟨0, fun limit _ => ?_⟩
    rw [upTo, Program.bind_eq, Program.run_bind, LedgerReads.noted_head?, run]
    exact ⟨_, _, rfl, onward, fun _ failed => by cases failed⟩
  | absent noted =>
    refine ⟨0, fun limit _ => ?_⟩
    rw [upTo, Program.bind_eq, Program.run_bind, LedgerReads.noted_head?, run]
    refine ⟨_, _, rfl, onward, ?_⟩
    rintro _ ⟨⟩
    exact .inr ⟨rfl, .inl noted⟩
  | found told =>
    obtain ⟨l, hl, before, after, told⟩ := told
    have head := Except.ok.inj (Ledger.eq_of_answer told)
    rw [hl.indexed.head artifact] at head
    obtain ⟨e, first, rfl⟩ := Option.map_eq_some_iff.1 head
    obtain ⟨older, here⟩ : ∃ older, thread artifact l.canonized = e :: older :=
      List.head?_eq_some_iff.1 first
    have linked := hl.indexed.linked artifact
    have descends := hl.sound.thread_pairwise artifact
    rw [here] at linked descends
    have mem {d : Transaction × Block} (hd : d ∈ e :: older) :
        d ∈ l.canonized ∧ d.1.artifact = artifact := by
      rwa [← here, Ledger.mem_thread] at hd
    refine ⟨older.length + 1, fun limit enough => ?_⟩
    obtain ⟨r, s, walk, further, walked⟩ := run_follow_noted hr (woven.weaves onward.weaves)
      absences' older linked descends (fun d hd => after.canonized_prefix.subset (mem hd).1)
      (fun _ => rfl) enough
    rw [upTo, Program.bind_eq, Program.run_bind, LedgerReads.noted_head?, run]
    refine ⟨r, s, walk, onward.trans further, ?_⟩
    have meanwhile := after.trans further.weaves
    rintro _ rfl
    cases walked with
    | all =>
      -- what is found later on is what the ledger had when it named the last transaction
      rw [List.append_nil, ← here, Ledger.kept_thread]
      exact .inl (meanwhile.transactionsOf hl.sound (stands.grows before.grows) artifact).symm
    | nothing hd lost =>
      exact .inr ⟨rfl, .inr ⟨_, meanwhile.canonized_prefix.subset (mem hd).1, (mem hd).2, lost⟩⟩

/-- The block up to which a history goes stands in the chain by then, if it was asked for last. -/
lemma run_latestOf_noted (w : W) (absences : List Absence)
    (last : Option BlockId) :
    ∃ r s, (latestOf reads.noted last).run (w, absences) = (r, s) ∧ Onward chain (w, absences) s ∧
      ∀ latest, r = .ok latest → (∀ id, last = some id → latest = id) ∧
        (last = none → ∃ l, (chain w).Weaves l ∧ l.Weaves (chain s.1) ∧ latest = l.lastBlock) := by
  cases last with
  | some id =>
    refine ⟨_, _, rfl, ⟨.refl, List.Subset.refl _⟩, ?_⟩
    rintro _ ⟨⟩
    exact ⟨fun _ same => Option.some.inj same, nofun⟩
  | none =>
    obtain ⟨l, before, after, reveals⟩ := hr.latest w
    refine ⟨_, _, Program.run_beside _ _ _, ⟨before.trans after, List.Subset.refl _⟩, ?_⟩
    intro latest told
    have answer := Except.ok.inj (Ledger.eq_of_answer (reveals latest told))
    exact ⟨nofun, fun _ => ⟨l, before, after, answer.symm⟩⟩

/-- A history that is found is complete up to its last block, or lost. -/
lemma run_find_noted (woven : (chain w).Woven) (absences : List Absence) (artifact : ArtifactId)
    (last : Option BlockId) :
    ∃ enough, ∀ limit, enough ≤ limit → ∃ r s,
      (find reads.noted limit artifact last).run (w, absences) = (some r, s) ∧
      Onward chain (w, absences) s ∧ ∀ history, r = .ok history →
        (∀ id, last = some id → history.latest = id) ∧
        (last = none → ∃ l, (chain w).Weaves l ∧ l.Weaves (chain s.1) ∧
          history.latest = l.lastBlock) ∧
        ∃ n, (chain s.1).Stands history.latest n ∧
          Found chain n artifact s history.transactions := by
  obtain ⟨latest, ⟨w₁, absences₁⟩, asked, first, goes⟩ := run_latestOf_noted hr w absences last
  rcases latest with e | latest
  · refine ⟨0, fun limit _ => ?_⟩
    rw [find, Program.bind_eq, Program.run_bind, asked]
    exact ⟨_, _, rfl, first, fun _ failed => by cases failed⟩
  obtain ⟨height, ⟨w₂, absences₂⟩, measured, second, stands⟩ :=
    run_heightOf_noted hr (woven.weaves first.weaves) absences₁ latest
  have both := first.trans second
  rcases height with e | n
  · refine ⟨0, fun limit _ => ?_⟩
    rw [find, Program.bind_eq, Program.run_bind, asked]
    dsimp only
    rw [Program.bind_eq, Program.run_bind, measured]
    exact ⟨_, _, rfl, both, fun _ failed => by cases failed⟩
  obtain ⟨enough, found⟩ :=
    run_upTo_noted hr (woven.weaves both.weaves) absences₂ (stands n rfl) artifact
  refine ⟨enough, fun limit le => ?_⟩
  obtain ⟨r, s, run, third, found⟩ := found limit le
  rw [find, Program.bind_eq, Program.run_bind, asked]
  dsimp only
  rw [Program.bind_eq, Program.run_bind, measured]
  dsimp only
  rw [Program.bind_eq, Program.run_bind, run]
  rcases r with e | transactions
  · exact ⟨_, _, rfl, both.trans third, fun _ failed => by cases failed⟩
  refine ⟨_, _, rfl, both.trans third, ?_⟩
  rintro _ ⟨⟩
  obtain ⟨given, lastOf⟩ := goes latest rfl
  refine ⟨given, fun none => ?_, n, (stands n rfl).grows third.weaves.grows, found _ rfl⟩
  obtain ⟨l, before, after, same⟩ := lastOf none
  exact ⟨l, before, after.trans (second.trans third).weaves, same⟩

end

end History

/--
A history that is found while the ledger fails at times is complete or empty: it goes up to the
given block, or to one that was the last, and consists of all transactions of the artifact up to
that block or of none. It is empty in place of a complete one only if the last transaction of the
artifact, or the predecessor of a transaction above that block, was answered by nothing.
-/
theorem finds_all_or_nothing {reads : LedgerReads W} {chain : W → Ledger} (hr : reads.Faulty chain)
    {w : W} (woven : (chain w).Woven) (artifact : ArtifactId) (last : Option BlockId) :
    ∃ enough, ∀ limit, enough ≤ limit → ∃ answer v absences,
      (History.find reads limit artifact last).run w = (some answer, v) ∧
      (History.find reads.noted limit artifact last).run (w, []) = (some answer, v, absences) ∧
      (chain w).Weaves (chain v) ∧
      ∀ latest transactions, answer = .ok ⟨latest, transactions⟩ →
        (∀ id, last = some id → latest = id) ∧
        (last = none → ∃ l, (chain w).Weaves l ∧ l.Weaves (chain v) ∧ latest = l.lastBlock) ∧
        ∃ n, (chain v).Stands latest n ∧
          (transactions = (chain v).transactionsOf artifact n ∨
            transactions = [] ∧ (.head artifact ∈ absences ∨
              ∃ e ∈ (chain v).canonized, e.1.artifact = artifact ∧ n < e.2.height ∧
                .previous e.1.id ∈ absences)) := by
  obtain ⟨enough, found⟩ := History.run_find_noted hr woven [] artifact last
  refine ⟨enough, fun limit le => ?_⟩
  obtain ⟨answer, ⟨v, absences⟩, run, onward, found⟩ := found limit le
  -- without the notes, the same is found
  obtain ⟨same, still⟩ := History.follows_find reads limit artifact last w []
  rw [run] at same still
  exact ⟨answer, v, absences, Prod.ext same.symm still.symm, run, onward.weaves,
    fun latest transactions told => found _ told⟩

/-- What becomes of a question, unless it is answered. -/
inductive Lapse where
  /-- The ledger cannot be asked. -/
  | fails (reason : String)
  /-- The ledger does not find what was asked for. -/
  | hides

/-- A ledger, and what becomes of the questions to come. -/
structure Frail where
  ledger : Ledger
  lapses : List (Option Lapse)

namespace Frail

/-- What the next question comes to. -/
def reply (answer hidden : Ledger → Except LedgerError α) (f : Frail) : Except LedgerError α :=
  match f.lapses.head?.join with
  | none => answer f.ledger
  | some (.fails reason) => .error (.unavailable reason)
  | some .hides => hidden f.ledger

def asks (answer hidden : Ledger → Except LedgerError α) : Program Frail (Except LedgerError α) :=
  .step (fun f => ⟨f.ledger, f.lapses.tail⟩) fun f => .done (f.reply answer hidden)

/-- The questions to a ledger each of which may fail or find nothing. -/
def reads : LedgerReads Frail where
  latest := asks Ledger.latest Ledger.latest
  blocksAfter id := asks (·.blocksAfter id) (·.blocksAfter id)
  block? id := asks (·.block? id) fun _ => .ok none
  transaction? id := asks (·.transaction? id) fun _ => .ok none
  blockOf? id := asks (·.blockOf? id) fun _ => .ok none
  head? id := asks (·.head? id) fun _ => .ok none
  previous? id := asks (·.previous? id) fun _ => .ok none

/-- Whoever hides nothing but what is there reveals what is there. -/
lemma asks_reveals {answer hidden : Ledger → Except LedgerError α} {found : β → α}
    (honest : ∀ l b, hidden l = .ok (found b) → answer l = .ok (found b)) :
    Ledger.Reveals Frail.ledger found (asks answer hidden) answer := by
  intro f
  refine ⟨f.ledger, .refl, .refl, fun b told => ?_⟩
  change f.reply answer hidden = .ok (found b) at told
  unfold reply at told
  split at told
  · exact told
  · cases told
  · exact honest _ b told

/-- A question that may be answered by nothing reveals what is there. -/
lemma asks_reveals_some (answer : Ledger → Except LedgerError (Option α)) :
    Ledger.Reveals Frail.ledger some (asks answer fun _ => .ok none) answer :=
  asks_reveals fun _ _ told => nomatch Except.ok.inj told

/-- A frail ledger finds nothing that is not there. -/
lemma reads_faulty : reads.Faulty Frail.ledger where
  latest := asks_reveals fun _ _ told => told
  block? id := asks_reveals_some (·.block? id)
  transaction? id := asks_reveals_some (·.transaction? id)
  blockOf? id := asks_reveals_some (·.blockOf? id)
  head? id := asks_reveals_some (·.head? id)
  previous? id := asks_reveals_some (·.previous? id)

/-- Three blocks; what the fifth question asks for is hidden. -/
def fifthHidden : Frail :=
  ⟨Feed.threeBlocks, [none, none, none, none, some .hides]⟩

/-- The same three blocks; every question is answered. -/
def noneHidden : Frail :=
  ⟨Feed.threeBlocks, []⟩

end Frail

/--
The fifth question for the history of an artifact up to the first block asks for the predecessor of
its transaction in the third block. When it is hidden, the one in the first block is not found. When
nothing is hidden, it is.
-/
theorem finds_nothing_if_hidden :
    (Feed.threeBlocks.transactionsOf (.ofNat 1) 1).map Transaction.id = [.ofNat 1] ∧
      (∃ limit v, (History.find Frail.reads.noted limit (.ofNat 1) (some (.ofNat 1))).run
          (Frail.fifthHidden, [])
        = (some (.ok ⟨.ofNat 1, []⟩), v, [.previous (.ofNat 3)])) ∧
      ∃ limit v, (History.find Frail.reads.noted limit (.ofNat 1) (some (.ofNat 1))).run
          (Frail.noneHidden, [])
        = (some (.ok ⟨.ofNat 1, Feed.threeBlocks.transactionsOf (.ofNat 1) 1⟩), v, []) := by
  refine ⟨by decide, ?_, ?_⟩
  · obtain ⟨enough, found⟩ := finds_all_or_nothing Frail.reads_faulty (w := Frail.fifthHidden)
      Feed.woven_threeBlocks (.ofNat 1) (some (.ofNat 1))
    obtain ⟨answer, v, absences, -, run, -, -⟩ := found (enough + 1) (Nat.le_succ enough)
    obtain ⟨rfl, rfl⟩ : answer = .ok ⟨.ofNat 1, []⟩ ∧ absences = [.previous (.ofNat 3)] := by
      cases run
      exact ⟨rfl, rfl⟩
    exact ⟨_, v, run⟩
  · obtain ⟨enough, found⟩ := finds_all_or_nothing Frail.reads_faulty (w := Frail.noneHidden)
      Feed.woven_threeBlocks (.ofNat 1) (some (.ofNat 1))
    -- both transactions of the artifact are visited, and the end of the thread
    obtain ⟨answer, v, absences, -, run, -, -⟩ := found (enough + 3) (Nat.le_add_right enough 3)
    obtain ⟨rfl, rfl⟩ : answer = .ok ⟨.ofNat 1, Feed.threeBlocks.transactionsOf (.ofNat 1) 1⟩ ∧
        absences = [] := by
      cases run
      exact ⟨rfl, rfl⟩
    exact ⟨_, v, run⟩

end LedgerWatch
