import LedgerWatch.History
import LedgerWatch.Proofs.Ledger.Weaving
import Mathlib.Data.List.Chain

/-!
# The history of an artifact up to a block

The history of an artifact is found by several questions to the ledger, between which further blocks
may be appended. In a woven ledger the walk along the predecessors comes to an end all the same: it
begins at some last transaction of the artifact and goes through all that were canonized before,
passing over those above the horizon.

The main statement is `finds_history`. It rests on what one visit finds (`run_visit`) and, by
induction on the thread of the artifact, on what the whole walk finds (`run_follow`).
-/

namespace LedgerWatch

open Ledger (Weaves Woven Stands)

variable {W α : Type}

/-- A question is answered by the ledger as it is meanwhile; blocks come before and after it. -/
def Ledger.Tells (chain : W → Ledger) (question : Program W (Except LedgerError α))
    (answer : Ledger → Except LedgerError α) : Prop :=
  ∀ w, ∃ l, (chain w).Weaves l ∧ l.Weaves (chain (question.run w).2) ∧
    (question.run w).1 = answer l

/-- The questions of a history are answered by a ledger in the world. -/
structure LedgerReads.Truthful (reads : LedgerReads W) (chain : W → Ledger) : Prop where
  latest : Ledger.Tells chain reads.latest Ledger.latest
  block? : ∀ id, Ledger.Tells chain (reads.block? id) (·.block? id)
  transaction? : ∀ id, Ledger.Tells chain (reads.transaction? id) (·.transaction? id)
  blockOf? : ∀ id, Ledger.Tells chain (reads.blockOf? id) (·.blockOf? id)
  head? : ∀ id, Ledger.Tells chain (reads.head? id) (·.head? id)
  previous? : ∀ id, Ledger.Tells chain (reads.previous? id) (·.previous? id)

namespace Ledger

variable {l l' : Ledger} {artifact : ArtifactId} {n : Nat}

/-- A ledger that can be asked, and was only ever appended to as it should be. -/
structure Open (l : Ledger) : Prop where
  woven : l.Woven
  available : l.unavailable = none

/-- A ledger that can be asked stays so when blocks are woven into it. -/
lemma Open.weaves (h : l.Open) (g : l.Weaves l') : l'.Open :=
  ⟨h.woven.weaves g, g.unavailable.trans h.available⟩

/-- A ledger that can be asked gives its answers. -/
lemma Open.answer (h : l.Open) (result : Except LedgerError α) : l.answer result = result :=
  answer_of_available h.available result

/-- The transactions of a thread that are not above a height, the first one first. -/
def kept (n : Nat) (older : List (Transaction × Block)) : List Transaction :=
  ((older.filter fun e => e.2.height ≤ n).map Prod.fst).reverse

/-- The last transaction of a thread is kept behind the others unless it is too high. -/
lemma kept_cons (n : Nat) (e : Transaction × Block) (older : List (Transaction × Block)) :
    kept n (e :: older)
      = kept n older ++ (if e.2.height ≤ n then some e.1 else none).toList := by
  by_cases low : e.2.height ≤ n <;> simp [kept, low]

/-- The walk along a whole thread keeps the transactions of the artifact up to the height. -/
lemma kept_thread : kept n (thread artifact l.canonized) = l.transactionsOf artifact n := by
  rw [kept, thread, transactionsOf_eq, List.filter_reverse, List.map_reverse, List.reverse_reverse,
    List.filter_filter]

end Ledger

namespace History

open Ledger (Open kept thread)

variable {reads : LedgerReads W} {chain : W → Ledger} {w : W} {id : BlockId} {n : Nat}
  {e : Transaction × Block}

/-- A question is answered by a ledger that can be asked, and blocks come before and after it. -/
lemma ask {question : Program W (Except LedgerError α)} {answer : Ledger → Except LedgerError α}
    (h : Ledger.Tells chain question answer) (hw : (chain w).Open) :
    ∃ l v, question.run w = (answer l, v) ∧ l.Open ∧ (chain w).Weaves l ∧ l.Weaves (chain v) := by
  obtain ⟨l, before, after, told⟩ := h w
  exact ⟨l, _, Prod.ext told rfl, hw.weaves before, before, after⟩

variable (hr : reads.Truthful chain)

include hr

/-- The height is found at which a block stands. -/
lemma run_heightOf (hw : (chain w).Open) (stands : (chain w).Stands id n) :
    ∃ v, (heightOf reads id).run w = (.ok n, v) ∧ (chain w).Weaves (chain v) := by
  cases stands with
  | root => exact ⟨w, rfl, .refl⟩
  | @block b hb =>
    have zero : ¬b.id.isZero = true := fun zero =>
      hw.woven.sound.ne_root b hb (Identifier.isZero_iff.1 zero)
    obtain ⟨l, v, run, opened, before, after⟩ := ask (hr.block? b.id) hw
    have mem := before.grows.blocks_prefix.subset hb
    rw [opened.woven.sound.block?_of_mem mem, opened.answer] at run
    refine ⟨v, ?_, before.trans after⟩
    rw [heightOf, if_neg zero, Program.bind_eq, Program.run_bind, run]
    rfl

/-- A canonized transaction is visited: it is found unless it stands above the horizon. -/
lemma run_visit (hw : (chain w).Open) (mem : e ∈ (chain w).canonized) (n : Nat) :
    ∃ v, (visit reads n e.1.id).run w
        = (.ok ⟨if e.2.height ≤ n then some e.1 else none, some e.1.previous⟩, v) ∧
      (chain w).Weaves (chain v) := by
  -- every ledger from here on has the transaction under its identifier
  have known {l : Ledger} (opened : l.Open) (g : (chain w).Weaves l) :
      l.transactions.get? e.1.id = some (e.1, e.2.id) :=
    opened.woven.indexed.found e (g.canonized_prefix.subset mem)
  have inChain : e.2 ∈ (chain w).blocks := by
    obtain ⟨b, hb, mem⟩ := List.mem_flatMap.1 mem
    obtain ⟨tx, -, rfl⟩ := List.mem_map.1 mem
    exact hb
  obtain ⟨l₁, w₁, runBlock, open₁, before₁, after₁⟩ := ask (hr.blockOf? e.1.id) hw
  have first := before₁.trans after₁
  rw [Ledger.blockOf?, known open₁ before₁, open₁.answer] at runBlock
  obtain ⟨w₂, runHeight, second⟩ := run_heightOf hr (hw.weaves first)
    ((Ledger.Stands.block inChain).grows first.grows)
  have both := first.trans second
  rw [visit, Program.bind_eq, Program.run_bind, runBlock]
  dsimp only [Option.map_some]
  rw [Program.bind_eq, Program.run_bind, runHeight]
  dsimp only
  by_cases low : e.2.height ≤ n
  · obtain ⟨l₃, w₃, runTx, open₃, before₃, after₃⟩ :=
      ask (hr.transaction? e.1.id) (hw.weaves both)
    rw [Ledger.transaction?, known open₃ (both.trans before₃), open₃.answer] at runTx
    refine ⟨w₃, ?_, both.trans (before₃.trans after₃)⟩
    rw [if_neg (Nat.not_lt.2 low), if_pos low, Program.bind_eq, Program.run_bind, runTx]
    rfl
  · obtain ⟨l₃, w₃, runPrevious, open₃, before₃, after₃⟩ :=
      ask (hr.previous? e.1.id) (hw.weaves both)
    rw [Ledger.previous?, known open₃ (both.trans before₃), open₃.answer] at runPrevious
    refine ⟨w₃, ?_, both.trans (before₃.trans after₃)⟩
    rw [if_pos (Nat.not_le.1 low), if_neg low, Program.bind_eq, Program.run_bind, runPrevious]
    rfl

/-- The walk along a thread of canonized transactions comes to its end. -/
lemma run_follow (hw : (chain w).Open) (older : List (Transaction × Block))
    (linked : Ledger.Linked (e :: older)) (mem : ∀ d ∈ e :: older, d ∈ (chain w).canonized)
    (n : Nat) (later : List Transaction) :
    ∃ v, (∀ limit, older.length < limit → (follow reads n limit e.1.id later).run w
        = (some (.ok (kept n (e :: older) ++ later)), v)) ∧
      (chain w).Weaves (chain v) := by
  obtain ⟨-, previous, linked⟩ := linked
  obtain ⟨v, run, weaves⟩ := run_visit hr hw (mem e List.mem_cons_self) n
  rw [Ledger.kept_cons, List.append_assoc]
  -- by induction on the rest of the thread, which no block that is appended meanwhile can change
  induction older generalizing e w later v with
  | nil =>
    refine ⟨v, fun limit enough => ?_, weaves⟩
    obtain ⟨limit, rfl⟩ := Nat.exists_eq_succ_of_ne_zero (Nat.ne_of_gt enough)
    have initial : e.1.previous.isZero = true := by
      rw [previous]
      rfl
    rw [follow, Program.bind_eq, Program.run_bind, run]
    dsimp only
    rw [if_pos initial]
    rfl
  | cons d older ih =>
    obtain ⟨ne_initial, previous', linked'⟩ := linked
    have mem' : ∀ d' ∈ d :: older, d' ∈ (chain v).canonized := fun d' hd =>
      weaves.canonized_prefix.subset (mem d' (List.mem_cons_of_mem _ hd))
    obtain ⟨v', run', weaves'⟩ :=
      run_visit hr (hw.weaves weaves) (mem' d List.mem_cons_self) n
    obtain ⟨u, walk, further⟩ := ih (hw.weaves weaves) mem'
      ((if e.2.height ≤ n then some e.1 else none).toList ++ later) previous' linked' v' run'
      weaves'
    refine ⟨u, fun limit enough => ?_, weaves.trans further⟩
    obtain ⟨limit, rfl⟩ := Nat.exists_eq_succ_of_ne_zero (Nat.ne_of_gt (Nat.zero_lt_of_lt enough))
    have named : e.1.previous = d.1.id := previous
    have further : ¬d.1.id.isZero = true := fun zero =>
      ne_initial (Identifier.isZero_iff.1 zero)
    rw [follow, Program.bind_eq, Program.run_bind, run]
    dsimp only
    rw [named, if_neg further, walk limit (Nat.lt_of_succ_lt_succ enough), Ledger.kept_cons,
      List.append_assoc]

/-- The transactions of an artifact up to the height of a block are found. -/
lemma run_upTo (hw : (chain w).Open) (stands : (chain w).Stands id n) (artifact : ArtifactId) :
    ∃ enough v, (∀ limit, enough ≤ limit → (upTo reads limit artifact n).run w
        = (some (.ok ((chain v).transactionsOf artifact n)), v)) ∧
      (chain w).Weaves (chain v) := by
  obtain ⟨l, v, run, opened, before, after⟩ := ask (hr.head? artifact) hw
  -- what is found later on is what the ledger had when it named the last transaction
  have same {u : W} (g : (chain v).Weaves (chain u)) :
      (chain u).transactionsOf artifact n = kept n (thread artifact l.canonized) := by
    rw [Ledger.kept_thread]
    exact (after.trans g).transactionsOf opened.woven.sound (stands.grows before.grows) artifact
  have indexed := opened.woven.indexed
  rw [Ledger.head?, opened.answer, indexed.head artifact] at run
  cases here : thread artifact l.canonized with
  | nil =>
    rw [here] at run same
    refine ⟨0, v, fun limit _ => ?_, before.trans after⟩
    rw [upTo, Program.bind_eq, Program.run_bind, run, same .refl]
    rfl
  | cons e older =>
    have linked := indexed.linked artifact
    rw [here] at run same linked
    have mem : ∀ d ∈ e :: older, d ∈ (chain v).canonized := by
      intro d hd
      rw [← here, Ledger.mem_thread] at hd
      exact after.canonized_prefix.subset hd.1
    obtain ⟨u, walk, further⟩ :=
      run_follow hr (opened.weaves after) older linked mem n []
    refine ⟨older.length + 1, u, fun limit enough => ?_, (before.trans after).trans further⟩
    rw [upTo, Program.bind_eq, Program.run_bind, run, same further]
    dsimp only [List.head?_cons, Option.map_some]
    rw [walk limit enough, List.append_nil]

/-- A history up to a block of the chain is found. -/
lemma run_find (hw : (chain w).Open) (stands : (chain w).Stands id n) (artifact : ArtifactId) :
    ∃ enough v, (∀ limit, enough ≤ limit → (find reads limit artifact (some id)).run w
        = (some (.ok ⟨id, (chain v).transactionsOf artifact n⟩), v)) ∧
      (chain w).Weaves (chain v) := by
  obtain ⟨v, height, weaves⟩ := run_heightOf hr hw stands
  obtain ⟨enough, u, walk, further⟩ :=
    run_upTo hr (hw.weaves weaves) (stands.grows weaves.grows) artifact
  refine ⟨enough, u, fun limit hl => ?_, weaves.trans further⟩
  rw [find, latestOf, Program.bind_eq, Program.run_bind]
  dsimp only [Program.pure_eq, Program.run_done]
  rw [Program.bind_eq, Program.run_bind, height]
  dsimp only
  rw [Program.bind_eq, Program.run_bind, walk limit hl]
  rfl

omit hr in
/-- Without a block, a history goes up to the one that the ledger gives as the last. -/
lemma run_find_none {v : W} {limit : Nat} {artifact : ArtifactId}
    (latest : reads.latest.run w = (.ok id, v)) :
    (find reads limit artifact none).run w = (find reads limit artifact (some id)).run v := by
  rw [find, latestOf, Program.bind_eq, Program.run_bind, latest]
  rfl

end History

/--
However many blocks are appended meanwhile, the history of an artifact is found: it goes up to the
given block, or to the last one when the first question was answered, and consists of all
transactions of the artifact up to that block, in order and each of them once. Whoever asks for the
same block later on finds the same history.
-/
theorem finds_history {reads : LedgerReads W} {chain : W → Ledger} (hr : reads.Truthful chain)
    {w : W} (woven : (chain w).Woven) (available : (chain w).unavailable = none)
    (artifact : ArtifactId) {last : Option BlockId}
    (canonized : ∀ id, last = some id → ∃ n, (chain w).Stands id n) :
    ∃ enough latest n v,
      (∀ limit, enough ≤ limit → (History.find reads limit artifact last).run w
        = (some (.ok ⟨latest, (chain v).transactionsOf artifact n⟩), v)) ∧
      (∀ id, last = some id → latest = id) ∧
      (last = none → ∃ l, (chain w).Weaves l ∧ l.Weaves (chain (reads.latest.run w).2) ∧
        (reads.latest.run w).1 = .ok latest ∧ latest = l.lastBlock) ∧
      (chain w).Weaves (chain v) ∧ (chain v).Stands latest n ∧
      (((chain v).transactionsOf artifact n).map Transaction.id).Nodup ∧
      ∀ u, (chain v).Weaves (chain u) → ∃ enough', ∀ limit, enough' ≤ limit →
        ((History.find reads limit artifact (some latest)).run u).1
          = some (.ok ⟨latest, (chain v).transactionsOf artifact n⟩) := by
  have hw : (chain w).Open := ⟨woven, available⟩
  -- asking again for a block that stands in the chain by now
  have again {v : W} {latest : BlockId} {n : Nat} (weaves : (chain w).Weaves (chain v))
      (stands : (chain v).Stands latest n) (u : W) (later : (chain v).Weaves (chain u)) :
      ∃ enough', ∀ limit, enough' ≤ limit →
        ((History.find reads limit artifact (some latest)).run u).1
          = some (.ok ⟨latest, (chain v).transactionsOf artifact n⟩) := by
    have hv := hw.weaves weaves
    obtain ⟨enough, u', run, further⟩ :=
      History.run_find hr (hv.weaves later) (stands.grows later.grows) artifact
    refine ⟨enough, fun limit hl => ?_⟩
    rw [run limit hl, (later.trans further).transactionsOf hv.woven.sound stands artifact]
  cases last with
  | some id =>
    obtain ⟨n, stands⟩ := canonized id rfl
    obtain ⟨enough, v, run, weaves⟩ := History.run_find hr hw stands artifact
    have standsAfter := stands.grows weaves.grows
    have once := (woven.weaves weaves).transactionsOf_nodup artifact n
    exact ⟨enough, id, n, v, run, fun _ same => Option.some.inj same, nofun, weaves, standsAfter,
      once, again weaves standsAfter⟩
  | none =>
    obtain ⟨l, w', asked, opened, before, after⟩ := History.ask hr.latest hw
    rw [Ledger.latest, opened.answer] at asked
    obtain ⟨n, stands⟩ := l.exists_stands_lastBlock
    obtain ⟨enough, v, run, further⟩ :=
      History.run_find hr (opened.weaves after) (stands.grows after.grows) artifact
    have weaves := (before.trans after).trans further
    have standsAfter := stands.grows (after.trans further).grows
    have once := (woven.weaves weaves).transactionsOf_nodup artifact n
    refine ⟨enough, l.lastBlock, n, v, fun limit hl => ?_, nofun, fun _ => ?_, weaves, standsAfter,
      once, again weaves standsAfter⟩
    · rw [History.run_find_none asked, run limit hl]
    · rw [asked]
      exact ⟨l, before, after, rfl, rfl⟩

/-- A ledger, and the ledgers that it is still to become. -/
structure Feed where
  now : Ledger
  coming : List Ledger
  weaves : (now :: coming).IsChain Ledger.Weave

namespace Feed

def advance : Feed → Feed
  | ⟨now, [], weaves⟩ => ⟨now, [], weaves⟩
  | ⟨_, next :: coming, weaves⟩ => ⟨next, coming, (List.isChain_cons_cons.1 weaves).2⟩

/-- A feed weaves a block into its ledger, or is at its end. -/
lemma weaves_advance (f : Feed) : f.now.Weaves f.advance.now := by
  obtain ⟨now, _ | ⟨next, coming⟩, weaves⟩ := f
  · exact .refl
  · exact .single (List.isChain_cons_cons.1 weaves).1

/-- A question during which a block is appended, right after it was answered. -/
def asks (answer : Ledger → Except LedgerError α) : Program Feed (Except LedgerError α) :=
  .step advance fun f => .done (answer f.now)

/-- A ledger that is appended to whenever it is asked. -/
def reads : LedgerReads Feed where
  latest := asks Ledger.latest
  blocksAfter id := asks (·.blocksAfter id)
  block? id := asks (·.block? id)
  transaction? id := asks (·.transaction? id)
  blockOf? id := asks (·.blockOf? id)
  head? id := asks (·.head? id)
  previous? id := asks (·.previous? id)

/-- A question to a feed is answered by the ledger as it is, and then the feed goes on. -/
lemma asks_tells (answer : Ledger → Except LedgerError α) :
    Ledger.Tells Feed.now (asks answer) answer :=
  fun f => ⟨f.now, .refl, f.weaves_advance, rfl⟩

/-- A feed answers truthfully. -/
lemma reads_truthful : reads.Truthful Feed.now where
  latest := asks_tells _
  block? id := asks_tells (·.block? id)
  transaction? id := asks_tells (·.transaction? id)
  blockOf? id := asks_tells (·.blockOf? id)
  head? id := asks_tells (·.head? id)
  previous? id := asks_tells (·.previous? id)

/-- A ledger after one more transaction of an artifact, in a block of its own. -/
def changed (l : Ledger) (number artifact : Nat) : Ledger :=
  l.append (.ofNat number)
    [l.nextTransaction (.ofNat number) (.ofNat artifact) (.ofNat 1) (.ofNat 1) none default]

/-- One more transaction of an artifact weaves a block. -/
lemma weave_changed {l : Ledger} {number : Nat} (block : l.Fresh (.ofNat number))
    (ne_initial : .ofNat number ≠ TransactionId.initial)
    (fresh : l.transactions.get? (.ofNat number) = none) (artifact : Nat) :
    l.Weave (changed l number artifact) :=
  .append block ⟨Ledger.joins_nextTransaction ne_initial fresh .., trivial⟩

/-- Three blocks, two of which change the first artifact. -/
def threeBlocks : Ledger :=
  changed (changed (changed {} 1 1) 2 2) 3 1

/-- The three blocks are woven. -/
lemma woven_threeBlocks : threeBlocks.Woven := by
  have first : Ledger.Weave {} (changed {} 1 1) :=
    weave_changed ⟨by decide, by decide⟩ (by decide) rfl 1
  have second : Ledger.Weave (changed {} 1 1) (changed (changed {} 1 1) 2 2) :=
    weave_changed ⟨by decide, by decide⟩ (by decide) rfl 2
  have third : Ledger.Weave (changed (changed {} 1 1) 2 2) threeBlocks :=
    weave_changed ⟨by decide, by decide⟩ (by decide) rfl 1
  exact ((Ledger.Woven.empty.weave first).weave second).weave third

/-- Three blocks, to which a fourth one is appended that changes the first artifact again. -/
def fourthToCome : Feed where
  now := threeBlocks
  coming := [changed threeBlocks 4 1]
  weaves := List.isChain_pair.2 (weave_changed ⟨by decide, by decide⟩ (by decide) rfl 1)

end Feed

/--
The fourth block is appended while the history up to the third one is being found: its transaction
is passed over.
-/
theorem finds_history_while_fed :
    let transactions := Feed.threeBlocks.transactionsOf (.ofNat 1) 3
    transactions.map Transaction.id = [.ofNat 1, .ofNat 3] ∧
      ∃ enough, ∀ limit, enough ≤ limit →
        ((History.find Feed.reads limit (.ofNat 1) none).run Feed.fourthToCome).1
          = some (.ok ⟨.ofNat 3, transactions⟩) := by
  obtain ⟨enough, latest, n, v, run, -, first, weaves, stands, -, -⟩ :=
    finds_history Feed.reads_truthful (w := Feed.fourthToCome) Feed.woven_threeBlocks rfl
      (.ofNat 1) (fun id (none : Option.none = some id) => nomatch none)
  obtain ⟨-, -, -, answer, -⟩ := first rfl
  obtain rfl : .ofNat 3 = latest := Except.ok.inj answer
  -- the third block is in the chain before and after
  obtain ⟨b, hb, id, height⟩ : ∃ b ∈ Feed.threeBlocks.blocks, b.id = .ofNat 3 ∧ b.height = 3 :=
    ⟨_, .tail _ (.tail _ (.head _)), rfl, rfl⟩
  have here : Feed.threeBlocks.Stands (.ofNat 3) 3 := id ▸ height ▸ .block hb
  have sound := (Feed.woven_threeBlocks.weaves weaves).sound
  obtain rfl := sound.stands_unique stands (here.grows weaves.grows)
  refine ⟨by decide, enough, fun limit hl => ?_⟩
  rw [run limit hl, weaves.transactionsOf Feed.woven_threeBlocks.sound here]
  rfl

end LedgerWatch
