import BeanContainer.Discovery.ClassIndex
import BeanContainer.Discovery.Progress
import Mathlib.Tactic.Lemma
/-!
# What a discovery amounts to

How often a discovery has to wait, and where it is interrupted, makes no difference to what it
finds. What it is going to amount to (`Progress.outcome`) can be told at any time from what it
remembers and from the host, and neither asking scans nor polling for an answer changes it.
-/

namespace BeanContainer

/-! ### One answer -/

namespace Reply

/-- The classes that a reply brings. A failure brings none. -/
def found : Reply → List ClassRef
  | .after _ (.ok classes) => classes
  | _ => []

/-- The failure that a reply to a scan brings, if it brings one. -/
def failures (scan : Scan) : Reply → List (Scan × String)
  | .after _ (.error reason) => [(scan, reason)]
  | _ => []

def findings (scan : Scan) (r : Reply) : Findings := ⟨r.found, r.failures scan⟩

/-- It makes no difference how long an answer takes. -/
lemma findings_after_succ (scan : Scan) (n : Nat) (answer : Answer) :
    (Reply.after (n + 1) answer).findings scan = (Reply.after n answer).findings scan := by
  cases answer <;> rfl

end Reply

namespace Findings

/-- Findings and those that come after them. -/
def append (f g : Findings) : Findings := ⟨f.classes ++ g.classes, f.failures ++ g.failures⟩

instance : Append Findings := ⟨append⟩

lemma append_eq (f g : Findings) :
    f ++ g = ⟨f.classes ++ g.classes, f.failures ++ g.failures⟩ := rfl

lemma append_assoc (f g h : Findings) : f ++ g ++ h = f ++ (g ++ h) := by
  simp only [append_eq, List.append_assoc]

@[simp] lemma append_empty (f : Findings) : f ++ ({} : Findings) = f := by
  simp only [append_eq, List.append_nil]

@[simp] lemma empty_append (f : Findings) : ({} : Findings) ++ f = f := rfl

/-- Taking an answer in adds what it amounts to, however long it took. -/
lemma record_eq (f : Findings) (scan : Scan) (answer : Answer) (n : Nat) :
    f.record scan answer = f ++ (Reply.after n answer).findings scan := by
  cases answer with
  | ok classes => simp [record, append_eq, Reply.findings, Reply.found, Reply.failures]
  | error reason => simp [record, append_eq, Reply.findings, Reply.found, Reply.failures]

end Findings

/-! ### All answers -/

/-- What scans amount to when all of them have been answered. -/
def Host.findings (h : Host) (loader : Loader) (scans : List Scan) : Findings :=
  ⟨scans.flatMap fun scan => (h.reply loader scan).found,
    scans.flatMap fun scan => (h.reply loader scan).failures scan⟩

lemma Host.findings_cons (h : Host) (loader : Loader) (scan : Scan) (scans : List Scan) :
    h.findings loader (scan :: scans) =
      (h.reply loader scan).findings scan ++ h.findings loader scans := by
  simp [findings, Findings.append_eq, Reply.findings]

/-- What a discovery that waits is going to amount to. -/
def Pending.outcome (p : Pending) (h : Host) (loader : Loader) : Findings :=
  p.findings ++ p.reply.findings p.scan ++ h.findings loader p.remaining

/-- What a discovery has amounted to or is going to amount to. -/
def Progress.outcome (h : Host) (loader : Loader) : Progress → Findings
  | .waiting p => p.outcome h loader
  | .finished f => f

/-- Asking scans adds what they amount to. -/
lemma Host.outcome_ask (h : Host) (loader : Loader) (f : Findings) (scans : List Scan) :
    (h.ask loader f scans).2.outcome h loader = f ++ h.findings loader scans := by
  induction scans generalizing f with
  | nil => exact (Findings.append_empty f).symm
  | cons scan scans ih =>
    rw [findings_cons, ask]
    split
    · rename_i answer hr
      rw [ih, hr, f.record_eq scan answer 0, Findings.append_assoc]
    · rename_i n answer hr
      rw [hr, Reply.findings_after_succ, ← Findings.append_assoc]
      rfl
    · rename_i hr
      rw [hr, ← Findings.append_assoc]
      rfl

/-- Polling for an answer does not change what the discovery amounts to. -/
lemma Pending.outcome_resume (p : Pending) (h : Host) (loader : Loader) :
    (p.resume h loader).2.outcome h loader = p.outcome h loader := by
  rw [resume, outcome]
  split
  · rename_i answer hr
    rw [Host.outcome_ask, hr, p.findings.record_eq p.scan answer 0]
  · rename_i n answer hr
    rw [hr, Reply.findings_after_succ]
    rfl
  · rfl

/-! ### Hosts that never make anybody wait -/

/-- A host whose answers are all there at once. -/
def Host.IsPrompt (h : Host) : Prop :=
  ∀ loader scan, ∃ answer, h.reply loader scan = .after 0 answer

lemma Host.isPrompt_empty : Host.empty.IsPrompt := fun _ _ => ⟨_, rfl⟩

lemma ClassIndex.isPrompt_host (index : ClassIndex) (managed : Bool) :
    (index.host managed).IsPrompt := fun _ _ => ⟨_, rfl⟩

/-- A prompt host finishes a discovery that has just begun. -/
lemma Host.IsPrompt.ask_ne_waiting {h : Host} (hp : h.IsPrompt) (loader : Loader) (f : Findings)
    (scans : List Scan) (p : Pending) : (h.ask loader f scans).2 ≠ .waiting p := by
  induction scans generalizing f with
  | nil => nofun
  | cons scan scans ih =>
    obtain ⟨answer, hr⟩ := hp loader scan
    simp only [ask, hr]
    exact ih _

/-- A prompt host finishes a discovery with everything that it answers. -/
lemma Host.IsPrompt.ask_eq_finished {h : Host} (hp : h.IsPrompt) (loader : Loader)
    (scans : List Scan) :
    (h.ask loader {} scans).2 = .finished (h.findings loader scans) := by
  have hout := h.outcome_ask loader {} scans
  cases hr : (h.ask loader {} scans).2 with
  | waiting p => exact absurd hr (hp.ask_ne_waiting loader {} scans p)
  | finished f =>
    rw [hr, Findings.empty_append] at hout
    exact congrArg Progress.finished hout

/-- The same answer, if there ever is one, but at once. -/
def Reply.prompt : Reply → Reply
  | .after _ answer => .after 0 answer
  | .never => .never

/-- The host that gives the same answers without making anybody wait for those that come. -/
def Host.prompt (h : Host) : Host :=
  { h with reply := fun loader scan => (h.reply loader scan).prompt }

lemma Host.isPrompt_prompt {h : Host} (hr : ∀ loader scan, h.reply loader scan ≠ .never) :
    h.prompt.IsPrompt := by
  intro loader scan
  change ∃ answer, (h.reply loader scan).prompt = _
  cases hs : h.reply loader scan with
  | after n answer => exact ⟨answer, rfl⟩
  | never => exact absurd hs (hr loader scan)

/-- It makes no difference to what scans amount to whether the answers come at once. -/
lemma Host.findings_prompt (h : Host) (loader : Loader) (scans : List Scan) :
    h.prompt.findings loader scans = h.findings loader scans := by
  have hfound : ∀ r : Reply, r.prompt.found = r.found := by
    rintro (⟨_, _ | _⟩ | _) <;> rfl
  have hfailures : ∀ (scan : Scan) (r : Reply), r.prompt.failures scan = r.failures scan := by
    rintro scan (⟨_, _ | _⟩ | _) <;> rfl
  simp only [findings, prompt, hfound, hfailures]

end BeanContainer
