import Colloquy.Batch.Notice

/-!
# Watching batches

Observers that are chosen while a program runs: nothing is observed, what happens is recorded, or
progress is reported in the log. A recorder may be told to fail, to see that a batch goes on.
-/

set_option autoImplicit false

namespace Colloquy

inductive Happening where
  | heard (notice : Notice)
  | begun (position : Nat)
  | ended (position : Nat)

/-- What was recorded, newest first, and the hooks in which the recorder fails. -/
structure Recorder where
  happenings : List Happening
  failing : List String

def Recorder.add (happening : Happening) (recorder : Recorder) : Recorder :=
  { recorder with happenings := happening :: recorder.happenings }

def Recorder.observer : Observer Recorder :=
  ⟨fun notice recorder =>
    let result : Except Error Unit :=
      if recorder.failing.contains notice.hook then .error (.raised .runtime (.text "sink broke"))
      else .ok ()
    (result, recorder.add (.heard notice))⟩

inductive WatchKind where
  | nothing
  | record
  | report
  deriving Repr, DecidableEq

structure Watch where
  recorder : Recorder
  report : ProgressReport

def Watch.fresh (failing : List String) (level : Datum) : Watch := ⟨⟨[], failing⟩, .fresh level⟩

def WatchKind.observer : WatchKind → Observer (Log × Watch)
  | nothing => .silent
  | record => Recorder.observer.zoom (fun both => both.2.recorder) fun recorder both =>
      (both.1, { both.2 with recorder := recorder })
  | report => ProgressReport.observer.zoom (fun both => (both.1, both.2.report)) fun inner both =>
      (inner.1, { both.2 with report := inner.2 })

end Colloquy
