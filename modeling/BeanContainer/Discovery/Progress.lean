import BeanContainer.Discovery.Host
/-!
# The progress of a discovery

A discovery asks its scans one after the other: a scan is asked when the one before it has been
answered. It waits whenever an answer is not there yet, and `Pending` is what it remembers
meanwhile. A scan that fails contributes a failure and no classes, and the discovery goes on.

`Host.ask` and `Pending.resume` return, next to the progress, the scans that were asked on the way.
-/

namespace BeanContainer

/-- What the scans answered so far amount to. -/
structure Findings where
  /-- The classes found, in the order of the answers. -/
  classes : List ClassRef := []
  /-- The scans that failed, with what the host said. -/
  failures : List (Scan × String) := []
  deriving Inhabited

/-- Take in the answer to a scan. -/
def Findings.record (f : Findings) (scan : Scan) : Answer → Findings
  | .ok classes => { f with classes := f.classes ++ classes }
  | .error reason => { f with failures := f.failures ++ [(scan, reason)] }

/-- A discovery that waits for an answer. -/
structure Pending where
  findings : Findings
  scan : Scan
  /-- What is left of the reply to it. -/
  reply : Reply
  remaining : List Scan

/-- How far a discovery has come. -/
inductive Progress where
  | waiting (pending : Pending)
  | finished (findings : Findings)

namespace Host

/-- Ask scans until an answer has to be waited for. -/
def ask (h : Host) (loader : Loader) (f : Findings) : List Scan → List Scan × Progress
  | [] => ([], .finished f)
  | scan :: remaining =>
    match h.reply loader scan with
    | .after 0 answer =>
      let (asked, progress) := h.ask loader (f.record scan answer) remaining
      (scan :: asked, progress)
    | .after (n + 1) answer => ([scan], .waiting ⟨f, scan, .after n answer, remaining⟩)
    | .never => ([scan], .waiting ⟨f, scan, .never, remaining⟩)

end Host

/-- Poll for the answer that is waited for, and go on if it is there. -/
def Pending.resume (p : Pending) (h : Host) (loader : Loader) : List Scan × Progress :=
  match p.reply with
  | .after 0 answer => h.ask loader (p.findings.record p.scan answer) p.remaining
  | .after (n + 1) answer => ([], .waiting { p with reply := .after n answer })
  | .never => ([], .waiting p)

end BeanContainer
