import LedgerWatch.Registry.Site
import Mathlib.Data.List.Infix
import Mathlib.Tactic.Lemma

/-!
# Diaries

A diary says in order which registrations were made and which watchers were called: asked for their
first criteria or told about a block, and what they replied. A call may have further calls in it, so
what a program adds to a diary is balanced, like brackets. From a diary one reads off whether a
watcher was started, whether some start was in progress, and what a fan-out heard from the watchers
that it told itself, as opposed to those that they told in turn.
-/

namespace LedgerWatch

/-- What a watcher replies when it is told about a block. -/
abbrev Reply := Except WatcherError (Option Criteria)

/-- Something that happened at a registry. -/
inductive Remark where
  /-- A registration was made. -/
  | enrolled (h : Handle)
  /-- The watcher of a registration is asked for its first criteria. -/
  | asked (h : Handle)
  | answered (h : Handle) (answer : Except WatcherError Criteria)
  /-- The watcher of a registration is told about a block that satisfies its criteria. -/
  | told (h : Handle) (block : BlockId) (criteria : Criteria)
  | replied (h : Handle) (reply : Reply)

/-- What happened at a registry, in order. -/
abbrev Diary := List Remark

namespace Remark

def asks : Remark → Bool
  | asked _ => true
  | _ => false

def answers : Remark → Bool
  | answered _ _ => true
  | _ => false

/-- Whether a watcher is called, or ends a call. -/
def calls : Remark → Bool
  | enrolled _ => false
  | _ => true

end Remark

namespace Diary

variable {d d' e : Diary} {h : Handle} {replies : List Reply}

/-! ### What a diary tells of a watcher -/

/-- Some watcher was asked for its first criteria and has not answered yet. -/
def Starting (d : Diary) : Prop :=
  d.countP Remark.answers < d.countP Remark.asks

/-- A watcher was asked for its first criteria, and answered with valid ones. -/
def Started (d : Diary) (h : Handle) : Prop :=
  ∃ a c, a ++ [.answered h (.ok c)] <+: d ∧ .asked h ∈ a ∧ c.Valid

/-- A registration was made while a start was in progress. -/
def Late (d : Diary) (h : Handle) : Prop :=
  ∃ a : Diary, a ++ [.enrolled h] <+: d ∧ Starting a

/-- A watcher was started, or was registered too late for the start to see it. -/
def Ready (d : Diary) (h : Handle) : Prop :=
  Started d h ∨ Late d h

/-- Who was started is so however the diary goes on. -/
lemma Started.mono (s : Started d h) (p : d <+: e) : Started e h := by
  obtain ⟨a, c, before, asked, valid⟩ := s
  exact ⟨a, c, before.trans p, asked, valid⟩

/-- Who came late did so however the diary goes on. -/
lemma Late.mono (l : Late d h) (p : d <+: e) : Late e h := by
  obtain ⟨a, before, starting⟩ := l
  exact ⟨a, before.trans p, starting⟩

/-- Who is ready stays ready. -/
lemma Ready.mono (r : Ready d h) (p : d <+: e) : Ready e h :=
  r.imp (·.mono p) (·.mono p)

/-- Whoever was told about a block was ready before. -/
def Timely (d : Diary) : Prop :=
  ∀ a h block c, a ++ [.told h block c] <+: d → Ready a h

/-- A diary in which only those who are ready are told stays timely when it is written on. -/
lemma Timely.concat {e : Remark} (t : Timely d)
    (ready : ∀ h block c, e = .told h block c → Ready d h) : Timely (d ++ [e]) := by
  intro a h block c before
  rcases List.prefix_concat_iff.1 before with same | before
  · obtain ⟨rfl, last⟩ := List.append_inj' same rfl
    exact ready h block c (List.singleton_inj.1 last).symm
  · exact t a h block c before

/-! ### Balanced diaries -/

/-- Every call in a diary ends in it, and calls lie within each other or apart. -/
inductive Balanced : Diary → Prop where
  | nil :
    Balanced []
  | enrolled (h : Handle) :
    Balanced [.enrolled h]
  | append {d e : Diary} :
    Balanced d →
    Balanced e →
    Balanced (d ++ e)
  | start {d : Diary} (h : Handle) (answer : Except WatcherError Criteria) :
    Balanced d →
    Balanced (.asked h :: d ++ [.answered h answer])
  | notify {d : Diary} (h : Handle) (block : BlockId) (c : Criteria) (reply : Reply) :
    Balanced d →
    Balanced (.told h block c :: d ++ [.replied h reply])

/-- In a balanced diary there are as many answers as questions. -/
lemma Balanced.count (b : Balanced d) : d.countP Remark.answers = d.countP Remark.asks := by
  induction b with
  | nil => rfl
  | enrolled h => rfl
  | append _ _ ihd ihe => rw [List.countP_append, List.countP_append, ihd, ihe]
  | start h answer _ ih => simp [List.countP_cons, Remark.asks, Remark.answers, ih]
  | notify h block c reply _ ih => simp [Remark.asks, Remark.answers, ih]

/-- What is written before a call ends is nothing, lies within the call, or is all of it. -/
lemma prefix_within {p : Diary} {first last : Remark} (hp : p <+: first :: d ++ [last]) :
    p = [] ∨ (∃ q, p = first :: q ∧ q <+: d) ∨ p = first :: d ++ [last] := by
  rcases List.prefix_concat_iff.1 hp with rfl | hp
  · exact .inr (.inr rfl)
  · cases p with
    | nil => exact .inl rfl
    | cons e q =>
      obtain ⟨rfl, hq⟩ := List.cons_prefix_cons.1 hp
      exact .inr (.inl ⟨q, rfl, hq⟩)

/-- At no point of a balanced diary were more answers given than asked for. -/
lemma Balanced.countP_le (b : Balanced d) : ∀ p : Diary, p <+: d →
    p.countP Remark.answers ≤ p.countP Remark.asks := by
  induction b with
  | nil =>
    intro p hp
    rw [List.prefix_nil.1 hp]
    exact Nat.le_refl 0
  | enrolled h =>
    intro p hp
    exact (hp.sublist.countP_le (p := Remark.answers)).trans (Nat.zero_le _)
  | @append d e bd _ ihd ihe =>
    intro p hp
    -- a beginning that goes beyond the first part has all of it, which counts nothing
    rcases List.prefix_or_prefix_of_prefix hp (List.prefix_append d e) with hp | ⟨q, rfl⟩
    · exact ihd p hp
    · rw [List.countP_append, List.countP_append, bd.count]
      exact Nat.add_le_add_left (ihe q ((List.prefix_append_right_inj d).1 hp)) _
  | start h answer b ih =>
    intro p hp
    rcases prefix_within hp with rfl | ⟨q, rfl, hq⟩ | rfl
    · exact Nat.le_refl 0
    · exact (ih q hq).trans (List.sublist_cons_self _ q).countP_le
    · exact (b.start h answer).count.le
  | notify h block c reply b ih =>
    intro p hp
    rcases prefix_within hp with rfl | ⟨q, rfl, hq⟩ | rfl
    · exact Nat.le_refl 0
    · exact ih q hq
    · exact (b.notify h block c reply).count.le

/-! ### What a fan-out hears -/

/-- The replies in a diary that are not within another call to reply, from a depth of calls. -/
def outerReplies : Nat → Diary → List Reply
  | _, [] => []
  | depth, e :: rest =>
    match e with
    | .told _ _ _ => outerReplies (depth + 1) rest
    | .replied _ reply => (if depth = 1 then [reply] else []) ++ outerReplies (depth - 1) rest
    | _ => outerReplies depth rest

/-- Within a call, a balanced diary holds none of the outer replies. -/
lemma Balanced.outerReplies (b : Balanced d) (depth : Nat) (rest : Diary) :
    outerReplies (depth + 1) (d ++ rest) = outerReplies (depth + 1) rest := by
  induction b generalizing depth rest with
  | nil => rfl
  | enrolled h => rfl
  | append _ _ ihd ihe => rw [List.append_assoc, ihd, ihe]
  | start h answer _ ih =>
    rw [List.append_assoc, List.cons_append]
    exact ih depth _
  | notify h block c reply _ ih =>
    rw [List.append_assoc, List.cons_append]
    exact ih (depth + 1) _

/-- No watcher is called in a diary. -/
def Quiet (d : Diary) : Prop :=
  ∀ e ∈ d, e.calls = false

lemma Quiet.nil : Quiet [] :=
  fun _ mem => absurd mem List.not_mem_nil

/-- No watcher is called in two diaries if none is in either. -/
lemma Quiet.append (q : Quiet d) (q' : Quiet e) : Quiet (d ++ e) :=
  List.forall_mem_append.2 ⟨q, q'⟩

/-- A diary without calls is balanced. -/
lemma Quiet.balanced (q : Quiet d) : Balanced d := by
  induction d with
  | nil => exact .nil
  | cons e rest ih =>
    obtain ⟨first, later⟩ := List.forall_mem_cons.1 q
    cases e with
    | enrolled h => exact .append (.enrolled h) (ih later)
    | _ => cases first

/-- A diary without calls has no replies. -/
lemma Quiet.outerReplies (q : Quiet d) (depth : Nat) (rest : Diary) :
    outerReplies depth (d ++ rest) = outerReplies depth rest := by
  induction d with
  | nil => rfl
  | cons e d ih =>
    obtain ⟨first, later⟩ := List.forall_mem_cons.1 q
    cases e with
    | enrolled h => exact ih later
    | _ => cases first

/--
What a fan-out writes: it tells watchers one after another and hears a reply from each. Whatever it
asks the ledger in between writes something of its own kind.
-/
inductive Fan (aside : Diary → Prop) : List Reply → Diary → Prop where
  | nil :
    Fan aside [] []
  | aside {replies : List Reply} {d e : Diary} :
    aside d →
    Fan aside replies e →
    Fan aside replies (d ++ e)
  | call {replies : List Reply} {d e : Diary} (h : Handle) (block : BlockId) (c : Criteria)
      (reply : Reply) :
    Balanced d →
    Fan aside replies e →
    Fan aside (reply :: replies) ((.told h block c :: d ++ [.replied h reply]) ++ e)

/-- What is written aside may be described more generally. -/
lemma Fan.imp {kind kind' : Diary → Prop} (f : Fan kind replies d) (le : ∀ d, kind d → kind' d) :
    Fan kind' replies d := by
  induction f with
  | nil => exact .nil
  | aside k _ ih => exact .aside (le _ k) ih
  | call h block c reply b _ ih => exact .call h block c reply b ih

/-- A fan-out goes on where another one ended. -/
lemma Fan.append {aside : Diary → Prop} {replies' : List Reply} (f : Fan aside replies d)
    (g : Fan aside replies' e) : Fan aside (replies ++ replies') (d ++ e) := by
  induction f with
  | nil => exact g
  | aside q _ ih =>
    rw [List.append_assoc]
    exact .aside q ih
  | call h block c reply b _ ih =>
    rw [List.append_assoc]
    exact .call h block c reply b ih

/-- A fan-out is balanced if what is written aside is. -/
lemma Fan.balanced (f : Fan Balanced replies d) : Balanced d := by
  induction f with
  | nil => exact .nil
  | aside b _ ih => exact b.append ih
  | call h block c reply b _ ih => exact (b.notify h block c reply).append ih

/-- When the ledger calls no watcher, a fan-out hears just the outer replies. -/
lemma Fan.outerReplies (f : Fan Quiet replies d) : outerReplies 0 d = replies := by
  induction f with
  | nil => rfl
  | aside q _ ih => rw [q.outerReplies, ih]
  | call h block c reply b _ ih =>
    rw [List.append_assoc, List.cons_append]
    refine (b.outerReplies 0 _).trans ?_
    exact congrArg (reply :: ·) ih

end Diary

/-- How a watcher that was told about a block ended, by its reply. -/
def Delivery.ofReply : Reply → Delivery
  | .error _ => .failed
  | .ok none => .optedOut
  | .ok (some c) => if c.Valid then .rearmed else .failed

/-- What a notification comes to that heard some replies. -/
def Tally.ofReplies (replies : List Reply) : Tally :=
  replies.foldl (fun t reply => t.add (.ofReply reply)) {}

end LedgerWatch
