import Courier.Session.Activity

/-!
# Handlers

Each session that a server accepts has a handler of its own. The handler runs the
handshake, answers messages, closes the session and at the end takes it off the
registry, unless somebody else has taken that on. If closing throws, nobody catches
it in the handler. What a handler does between two moments at which others can see
it is one step, and a step that reads waits until its bytes are there.
-/

namespace Courier

/-- What a handler does next. -/
inductive Phase where
  | establishing (activity : Activity)
  | serving (activity : Activity)
  | closing
  | marking
  | removing
  | retired
  /-- What closing threw has left the handler. -/
  | fallen

/-- A session and its handler. -/
structure Handler where
  session : Session
  phase : Phase

namespace Handler

/-- The handler of a newly accepted session. -/
def start (session : Session) : Handler := ⟨session, .establishing .checking⟩

/-- What is left of a handler that could not be started. -/
def unstarted (session : Session) : Handler := ⟨session, .closing⟩

/-- The session with what is done on it, while its handler works on messages. -/
def work? (handler : Handler) : Option Work :=
  match handler.phase with
  | .establishing activity => some ⟨activity, handler.session⟩
  | .serving activity => some ⟨activity, handler.session⟩
  | _ => none

/-- Whether the next step returns at once; a handler that has retired or fallen takes none. -/
def ready (handler : Handler) : Bool :=
  match handler.phase, handler.work? with
  | .retired, _ | .fallen, _ => false
  | _, some work => work.ready
  | _, none => true

/-- Whether the next step takes the session off the registry. -/
def isRemoving (handler : Handler) : Bool :=
  match handler.phase with
  | .removing => true
  | _ => false

def isRetired (handler : Handler) : Bool :=
  match handler.phase with
  | .retired => true
  | _ => false

def isFallen (handler : Handler) : Bool :=
  match handler.phase with
  | .fallen => true
  | _ => false

/-- One step of the handshake; once it has ended, serving or closing comes next. -/
def establish (suite : Suite) (policy : Policy) (handler : Handler) (activity : Activity) : Handler :=
  match activity.result? with
  | some (.ok ()) => { handler with phase := .serving .starting }
  | some (.error _) => { handler with phase := .closing }
  | none =>
      let work := (⟨activity, handler.session⟩ : Work).step suite policy
      ⟨work.session, .establishing work.activity⟩

/-- One step of serving; once it has ended, closing comes next. -/
def serve (suite : Suite) (policy : Policy) (handler : Handler) (activity : Activity) : Handler :=
  match activity.result? with
  | some _ => { handler with phase := .closing }
  | none =>
      let work := (⟨activity, handler.session⟩ : Work).step suite policy
      ⟨work.session, .serving work.activity⟩

/-- The next step. -/
def step (suite : Suite) (policy : Policy) (handler : Handler) : Handler :=
  match handler.phase with
  | .establishing activity => handler.establish suite policy activity
  | .serving activity => handler.serve suite policy activity
  | .closing =>
      match handler.session.close suite with
      | (.ok (), session) => ⟨session, .marking⟩
      | (.error _, session) => ⟨session, .fallen⟩
  | .marking =>
      match handler.session.markFinished with
      | (true, session) => ⟨session, .removing⟩
      | (false, session) => ⟨session, .retired⟩
  | .removing => { handler with phase := .retired }
  | .retired | .fallen => handler

/-- A bound on the steps until the next read that takes a byte, or the last step. -/
def weight (handler : Handler) : Nat :=
  match handler.phase with
  | .establishing activity => (⟨activity, handler.session⟩ : Work).weight + 10
  | .serving activity => (⟨activity, handler.session⟩ : Work).weight + 4
  | .closing => 3
  | .marking => 2
  | .removing => 1
  | .retired | .fallen => 0

/-- Every step brings the end closer. -/
theorem weight_step (suite : Suite) (policy : Policy) (handler : Handler)
    (possible : handler.ready = true) :
    (handler.step suite policy).weight < handler.weight := by
  unfold step
  split <;> rename_i place
  · rename_i activity
    have before : handler.weight = (⟨activity, handler.session⟩ : Work).weight + 10 := by
      simp [weight, place]
    rw [before]
    unfold establish
    split
    · simp only [weight, Work.weight, Activity.rank]
      omega
    · simp only [weight]
      omega
    · rename_i unfinished
      have falls := (⟨activity, handler.session⟩ : Work).weight_step suite policy unfinished
      exact Nat.add_lt_add_right falls 10
  · rename_i activity
    have before : handler.weight = (⟨activity, handler.session⟩ : Work).weight + 4 := by
      simp [weight, place]
    rw [before]
    unfold serve
    split
    · simp only [weight]
      omega
    · rename_i unfinished
      have falls := (⟨activity, handler.session⟩ : Work).weight_step suite policy unfinished
      exact Nat.add_lt_add_right falls 4
  · split <;> simp [weight, place]
  · split <;> simp [weight, place]
  · simp [weight, place]
  · simp [ready, place] at possible
  · simp [ready, place] at possible

end Handler

end Courier
