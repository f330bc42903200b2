import BeanContainer.Discovery.ClassIndex
import BeanContainer.Discovery.Progress
import BeanContainer.Proofs.Deployment.Plain
/-!
# Discoveries without markers

A discovery takes in the classes that it is told of and never looks at their markers: asking scans
and polling for answers commutes with leaving the markers out, for hosts of their own as for class
indexes.
-/

namespace BeanContainer

/-! ### Answers -/

def Answer.plain (a : Answer) : Answer := a.map (List.map ClassRef.plain)

def Reply.plain : Reply → Reply
  | .after polls answer => .after polls answer.plain
  | .never => .never

def Findings.plain (f : Findings) : Findings := { f with classes := f.classes.map ClassRef.plain }

lemma Findings.plain_record (f : Findings) (scan : Scan) (answer : Answer) :
    (f.record scan answer).plain = f.plain.record scan answer.plain := by
  cases answer with
  | ok classes => simp [record, plain, Answer.plain, Except.map]
  | error reason => rfl

/-! ### Hosts -/

def Host.plain (h : Host) : Host :=
  { h with reply := fun loader scan => (h.reply loader scan).plain }

def Pending.plain (p : Pending) : Pending :=
  { p with findings := p.findings.plain, reply := p.reply.plain }

def Progress.plain : Progress → Progress
  | .waiting p => .waiting p.plain
  | .finished f => .finished f.plain

/-- Markers make no difference to which scans are asked and how far a discovery gets. -/
theorem Host.plain_ask (h : Host) (loader : Loader) (f : Findings) (scans : List Scan) :
    h.plain.ask loader f.plain scans = (h.ask loader f scans).map id Progress.plain := by
  induction scans generalizing f with
  | nil => rfl
  | cons scan scans ih =>
    have hreply : h.plain.reply loader scan = (h.reply loader scan).plain := rfl
    rw [ask, ask, hreply]
    cases h.reply loader scan with
    | never => rfl
    | after polls answer =>
      cases polls with
      | zero =>
        simp only [Reply.plain, ← Findings.plain_record, ih]
        rfl
      | succ n => rfl

lemma Pending.plain_resume (p : Pending) (h : Host) (loader : Loader) :
    p.plain.resume h.plain loader = (p.resume h loader).map id Progress.plain := by
  have hreply : p.plain.reply = p.reply.plain := rfl
  rw [resume, resume, hreply]
  cases p.reply with
  | never => rfl
  | after polls answer =>
    cases polls with
    | zero =>
      simp only [Reply.plain]
      rw [← Host.plain_ask, Findings.plain_record]
      rfl
    | succ n => rfl

/-! ### Class indexes -/

def IndexedClass.plain (e : IndexedClass) : IndexedClass :=
  { e with reference := e.reference.plain }

namespace ClassIndex

lemma register_map_plain (index : ClassIndex) (e : IndexedClass) :
    register (index.map IndexedClass.plain) e.plain =
      (register index e).map IndexedClass.plain :=
  Keyed.put_map (fun _ => rfl) (fun _ _ => rfl) e index

lemma find_map_plain (index : ClassIndex) (loader : Loader) (scan : Scan) :
    find (index.map IndexedClass.plain) loader scan =
      (find index loader scan).map ClassRef.plain := by
  have hmatches : matchesScan loader scan ∘ IndexedClass.plain = matchesScan loader scan := by
    funext e
    cases scan <;> rfl
  rw [find, List.filter_map, hmatches, List.map_map, find, List.map_map]
  rfl

lemma host_map_plain (index : ClassIndex) (managed : Bool) :
    host (index.map IndexedClass.plain) managed = (host index managed).plain := by
  simp only [host, find_map_plain]
  rfl

end ClassIndex

end BeanContainer
