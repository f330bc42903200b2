import BeanContainer.Discovery.Progress
import Mathlib.Tactic.Lemma
/-!
# When scans are asked

Scans are asked one after the other, so that a host keeps a discovery waiting for the sum of the
times that its answers take. `Host.askedWithin` says which scans have been asked after a number of
polls: those before which the host has kept the discovery waiting for fewer polls
(`Host.concat_prefix_askedWithin_iff`). Wherever the discovery stands, it goes on to ask what is
left of them (`Pending.asksWithin_succ`), and nothing is asked twice or left out
(`Pending.append_remaining_resume`).
-/

namespace BeanContainer

/-! ### How long answers take -/

/-- How many polls are made in vain before the answer is there, if it ever is. -/
def Reply.vainPolls? : Reply → Option Nat
  | .after n _ => some n
  | .never => none

namespace Host

variable (h : Host) (loader : Loader)

/-- How many polls are made in vain before scans have been answered one after the other. -/
def vainPolls? : List Scan → Option Nat
  | [] => some 0
  | scan :: scans =>
    (h.reply loader scan).vainPolls?.bind fun n => (vainPolls? scans).map (n + ·)

/-- The scans that have been asked when their discovery has been polled so many times. -/
def askedWithin : Nat → List Scan → List Scan
  | _, [] => []
  | 0, _ :: _ => []
  | polls + 1, scan :: scans =>
    match h.reply loader scan with
    | .after n _ => scan :: askedWithin (polls + 1 - n) scans
    | .never => [scan]

@[simp] lemma askedWithin_nil (polls : Nat) : h.askedWithin loader polls [] = [] := by
  cases polls <;> rfl

@[simp] lemma askedWithin_zero (scans : List Scan) : h.askedWithin loader 0 scans = [] := by
  cases scans <;> rfl

lemma askedWithin_cons {polls : Nat} (hpolls : 0 < polls) (scan : Scan) (scans : List Scan) :
    h.askedWithin loader polls (scan :: scans) =
      scan :: ((h.reply loader scan).vainPolls?.elim [] fun n =>
        h.askedWithin loader (polls - n) scans) := by
  obtain ⟨polls, rfl⟩ := Nat.exists_eq_add_one_of_ne_zero (Nat.ne_of_gt hpolls)
  rw [askedWithin]
  cases h.reply loader scan <;> rfl

lemma askedWithin_prefix (polls : Nat) (scans : List Scan) :
    h.askedWithin loader polls scans <+: scans := by
  induction scans generalizing polls with
  | nil => simp
  | cons scan scans ih =>
    cases polls with
    | zero => exact List.nil_prefix
    | succ polls =>
      rw [askedWithin_cons h loader (Nat.succ_pos polls), List.cons_prefix_cons]
      refine ⟨rfl, ?_⟩
      cases (h.reply loader scan).vainPolls? with
      | none => exact List.nil_prefix
      | some n => exact ih (polls + 1 - n)

/-- A scan has been asked exactly if those before it have been answered in fewer polls. -/
theorem concat_prefix_askedWithin_iff {polls : Nat} {earlier later : List Scan} {scan : Scan} :
    earlier ++ [scan] <+: h.askedWithin loader polls (earlier ++ scan :: later) ↔
      ∃ n, h.vainPolls? loader earlier = some n ∧ n < polls := by
  induction earlier generalizing polls with
  | nil =>
    cases polls with
    | zero => simp [vainPolls?]
    | succ polls => simp [vainPolls?, askedWithin_cons]
  | cons first earlier ih =>
    cases polls with
    | zero => simp
    | succ polls =>
      rw [List.cons_append, List.cons_append, askedWithin_cons h loader (Nat.succ_pos polls),
        List.cons_prefix_cons, vainPolls?]
      cases (h.reply loader first).vainPolls? with
      | none => simp
      | some n =>
        rw [Option.elim_some, ih, Option.bind_some]
        constructor
        · rintro ⟨-, m, hm, hlt⟩
          exact ⟨n + m, by rw [hm, Option.map_some], by omega⟩
        · rintro ⟨m, hm, hlt⟩
          obtain ⟨m', hm', rfl⟩ := Option.map_eq_some_iff.1 hm
          exact ⟨rfl, m', hm', by omega⟩

end Host

/-! ### What is still to be asked -/

/-- The scans that a discovery is going to ask when it is polled so many times more. -/
def Pending.asksWithin (p : Pending) (h : Host) (loader : Loader) (polls : Nat) : List Scan :=
  p.reply.vainPolls?.elim [] fun n => h.askedWithin loader (polls - n) p.remaining

namespace Progress

def asksWithin (h : Host) (loader : Loader) (polls : Nat) : Progress → List Scan
  | .waiting p => p.asksWithin h loader polls
  | .finished _ => []

/-- The scans that have not been asked. -/
def remaining : Progress → List Scan
  | .waiting p => p.remaining
  | .finished _ => []

end Progress

variable (h : Host) (loader : Loader)

/-- A discovery that begins asks what is to be asked in its first poll, and goes on accordingly. -/
lemma Host.askedWithin_succ (f : Findings) (polls : Nat) (scans : List Scan) :
    h.askedWithin loader (polls + 1) scans =
      (h.ask loader f scans).1 ++ (h.ask loader f scans).2.asksWithin h loader polls := by
  induction scans generalizing f with
  | nil => rfl
  | cons scan scans ih =>
    rw [askedWithin_cons h loader (Nat.succ_pos polls), ask]
    split
    · rename_i answer hr
      rw [hr]
      exact congrArg (scan :: ·) (ih _)
    · rename_i n answer hr
      rw [hr, Reply.vainPolls?, Option.elim_some, Nat.succ_sub_succ]
      rfl
    · rename_i hr
      rw [hr]
      rfl

lemma Host.append_remaining_ask (f : Findings) (scans : List Scan) :
    (h.ask loader f scans).1 ++ (h.ask loader f scans).2.remaining = scans := by
  induction scans generalizing f with
  | nil => rfl
  | cons scan scans ih =>
    rw [ask]
    split
    · exact congrArg (scan :: ·) (ih _)
    · rfl
    · rfl

namespace Pending

variable (p : Pending)

lemma asksWithin_zero : p.asksWithin h loader 0 = [] := by
  rw [asksWithin]
  cases p.reply <;> simp [Reply.vainPolls?]

/-- A discovery that is polled asks what is to be asked then, and goes on accordingly. -/
lemma asksWithin_succ (polls : Nat) :
    p.asksWithin h loader (polls + 1) =
      (p.resume h loader).1 ++ (p.resume h loader).2.asksWithin h loader polls := by
  rw [resume, asksWithin]
  split
  · rename_i answer hr
    rw [hr]
    exact h.askedWithin_succ loader _ polls p.remaining
  · rename_i n answer hr
    rw [hr, Reply.vainPolls?, Option.elim_some, Nat.succ_sub_succ]
    rfl
  · rename_i hr
    rw [hr]
    simp [Progress.asksWithin, asksWithin, hr, Reply.vainPolls?]

/-- What a poll asks and what it leaves to be asked were to be asked before. -/
lemma append_remaining_resume :
    (p.resume h loader).1 ++ (p.resume h loader).2.remaining = p.remaining := by
  rw [resume]
  split
  · exact h.append_remaining_ask loader _ p.remaining
  · rfl
  · rfl

end Pending

end BeanContainer
