import TxGateway.Operation.Broadcast
import TxGateway.Operation.Race
import TxGateway.Operation.Verification
import TxGateway.Proofs.Response

namespace TxGateway

/-! # Activities step by step

An activity is a function of the whole time that is to come. Where many tasks take turns, a task
must be known at every point between: what it has asked so far, what it waits for, and how it will
go on. A process has these points, and it asks only when its turn has come.

* `Process` is a task that can be stopped at each call, and `Process.activity` is its activity.
* `Stepwise` says that an activity is that of a process, and so are all that the gateway is made of.
* `Thread` is a process on its way, and `Thread.course` is how it will have been in the end.
* `Thread.course_start` and `Thread.course_resume` say that this never changes.
-/

/-- What a task does next, as far as it depends on answers and on the time. -/
inductive Process (α : Type) where
  | finish (value : α)
  /-- Looks at the clock. -/
  | look (next : Instant → Process α)
  /-- Makes a call and waits for the reply. -/
  | ask (c : Call) (deadline : Instant) (next : Option (Reply c.Answer) → Process α)

namespace Process

variable {α β : Type}

/-- The activity of a process that is never kept waiting for its turn. -/
def activity : Process α → Activity α
  | .finish value => pure value
  | .look next => Activity.now >>= fun now => (next now).activity
  | .ask c deadline next => Activity.ask c deadline >>= fun reply => (next reply).activity

protected def bind : Process α → (α → Process β) → Process β
  | .finish value, f => f value
  | .look next, f => .look fun now => (next now).bind f
  | .ask c deadline next, f => .ask c deadline fun reply => (next reply).bind f

end Process

/-- What activities come to does not depend on how they are grouped. -/
protected theorem Activity.bind_assoc {α β γ : Type} (x : Activity α) (f : α → Activity β)
    (g : β → Activity γ) : (x >>= f) >>= g = x >>= fun a => f a >>= g := by
  funext w now
  cases hx : (x w now).value with
  | none =>
    have hxf : (x >>= f) w now = _ := bind_of_none hx
    rw [bind_of_none hx, bind_of_none (by rw [hxf]), hxf]
  | some a =>
    have hxf : (x >>= f) w now = _ := bind_of_some hx
    rw [bind_of_some hx]
    cases hf : (f a w (x w now).finish).value with
    | none => rw [bind_of_none (by rw [hxf, hf]), hxf, bind_of_none hf]
    | some b =>
      rw [bind_of_some (a := b) (by rw [hxf, hf]), hxf, bind_of_some hf]
      simp only [List.append_assoc]

instance : LawfulMonad Activity := by
  refine .mk' Activity ?_ ?_ Activity.bind_assoc
  · intro α x
    funext w now
    exact (Activity.bind_pure_apply id).trans (by simp)
  · intro α β a next
    funext w now
    exact Activity.bind_of_some rfl

namespace Process

variable {α β : Type}

theorem activity_bind (p : Process α) (f : α → Process β) :
    (p.bind f).activity = p.activity >>= fun a => (f a).activity := by
  induction p with
  | finish value => exact (pure_bind _ _).symm
  | look next ih => simp only [Process.bind, activity, ih, bind_assoc]
  | ask c deadline next ih => simp only [Process.bind, activity, ih, bind_assoc]

/-- A process makes its calls one after the other. -/
theorem gapless (p : Process α) (w : World) (now : Instant) :
    Gapless now (p.activity w now).calls (p.activity w now).finish := by
  have hmakes : Activity.Makes (fun _ => True) p.activity := by
    induction p with
    | finish value => exact Activity.makes_pure _
    | look next ih => exact Activity.makes_now.bind ih
    | ask c deadline next ih =>
      exact ((Activity.makes_ask c deadline).mono fun _ _ => trivial).bind ih
  exact hmakes.gapless w now

end Process

/-! ## What is made of processes -/

/-- An activity with a process whose activity it is. -/
structure Stepwise {α : Type} (x : Activity α) where
  process : Process α
  activity_eq : process.activity = x

namespace Stepwise

variable {α β : Type} {x : Activity α} {next : α → Activity β}

protected def pure (a : α) : Stepwise (pure a) := ⟨.finish a, rfl⟩

def ask (c : Call) (deadline : Instant) : Stepwise (Activity.ask c deadline) :=
  ⟨.ask c deadline .finish, bind_pure _⟩

protected def bind (hx : Stepwise x) (hnext : ∀ a, Stepwise (next a)) : Stepwise (x >>= next) where
  process := hx.process.bind fun a => (hnext a).process
  activity_eq := by
    simp only [Process.activity_bind, hx.activity_eq]
    exact congrArg _ (funext fun a => (hnext a).activity_eq)

end Stepwise

/-! ## The tasks of the gateway -/

namespace Provider

def stepwiseSubmit (p : Provider) (id hex : String) (deadline : Instant) :
    Stepwise (p.submit id hex deadline) :=
  match p with
  | .miner _ => (Stepwise.ask _ _).bind fun _ => .pure _
  | .outlet _ _ => (Stepwise.ask _ _).bind fun _ => .pure _

def stepwiseLookUp (p : Provider) (id : String) (deadline : Instant) :
    Stepwise (p.lookUp id deadline) :=
  match p with
  | .miner _ => (Stepwise.ask _ _).bind fun _ => .pure _
  | .outlet _ _ => (Stepwise.ask _ _).bind fun _ => .pure _

end Provider

def Search.stepwise (id : String) (wanted : Inclusion) (deadline : Instant) :
    (ps : List Provider) → Stepwise (Search.inOrder id wanted deadline ps)
  | [] => .pure none
  | p :: rest => (p.stepwiseLookUp id deadline).bind fun reply =>
    match reply with
    | none => .pure none
    | some (.error _) => stepwise id wanted deadline rest
    | some (.ok r) => {
        process := if wanted.metBy id r then .finish (some r)
          else (stepwise id wanted deadline rest).process
        activity_eq := by
          dsimp only
          split
          · rfl
          · exact (stepwise id wanted deadline rest).activity_eq }

def Race.stepwise (id : String) (wanted : Inclusion) (deadline : Instant) (p : Provider) :
    Stepwise (Race.ask id wanted deadline p) :=
  (p.stepwiseLookUp id deadline).bind fun reply =>
    match reply with
    | none => .pure none
    | some (.error _) => .pure none
    | some (.ok _) => .pure _

def Verification.stepwise (roots : List RootClaim) (deadline : Instant) (position : Nat)
    (verifier : String) : Stepwise (Verification.ask roots deadline position verifier) :=
  (Stepwise.ask _ _).bind fun _ => .pure _

namespace Broadcast

/-- The clock is looked at before the search, since that sets the deadline of the search. -/
def stepwiseSettle (request : Request) (e : ProviderError) : Stepwise (settle request e) where
  process :=
    match Wording.classify e.message with
    | .alreadyKnown => .finish none
    | .failure => .finish (some e.message)
    | .questionable => .look fun now =>
      (Search.stepwise request.id .mempool (min request.deadline (now + request.fallbackLimit))
        request.fallback).process.bind fun found =>
          .finish (match found with | some _ => none | none => some e.message)
  activity_eq := by
    unfold settle
    -- the class of the words alone decides whether there is anything more to ask
    cases Wording.classify e.message with
    | alreadyKnown => rfl
    | failure => rfl
    | questionable =>
      simp only [Process.activity, Process.activity_bind, Stepwise.activity_eq]
      congr
      funext now
      congr
      funext found
      cases found <;> rfl

def stepwise (request : Request) (p : Provider) : Stepwise (attempt request p) :=
  (p.stepwiseSubmit _ _ _).bind fun reply =>
    match reply.getD (.error .late) with
    | .ok () => .pure _
    | .error e => (stepwiseSettle request e).bind fun _ => .pure _

end Broadcast

/-! ## Threads -/

/-- Where a process is on its way. -/
inductive Stage (α : Type) where
  /-- It waits for a call to end. It goes on then, unless it has crashed. -/
  | waiting (due : Instant) (rest : Option (Process α))
  /-- It has ended, with a value unless it has crashed. -/
  | ended (instant : Instant) (value : Option α)
  /-- It was broken off. -/
  | cut

def Stage.isWaiting {α : Type} : Stage α → Bool
  | .waiting _ _ => true
  | _ => false

/-- A process on its way. -/
structure Thread (α : Type) where
  /-- What it was at its start. -/
  program : Process α
  /-- The calls that it has made, the one that it waits for too. -/
  calls : List CallTrace
  stage : Stage α

section

variable {α : Type} (w : World)

/-- Lets a process go on until it waits or ends, and adds its calls to the past ones. -/
def Process.proceed (now : Instant) (past : List CallTrace) :
    Process α → List CallTrace × Stage α
  | .finish value => (past, .ended now (some value))
  | .look next => (next now).proceed now past
  | .ask c deadline next =>
    let course := Activity.ask c deadline w now
    if now < course.finish then
      (past ++ course.calls, .waiting course.finish (course.value.map next))
    else
      match course.value with
      | some reply => (next reply).proceed now (past ++ course.calls)
      | none => (past ++ course.calls, .ended now none)

/-- What is still to come. -/
def Stage.ahead : Stage α → Timeline α
  | .waiting due none => ⟨[], due, none⟩
  | .waiting due (some p) => p.activity w due
  | .ended instant value => ⟨[], instant, value⟩
  | .cut => ⟨[], 0, none⟩

/-- A process has just got so far. -/
def Stage.Since (now : Instant) : Stage α → Prop
  | .waiting due _ => now < due
  | .ended instant _ => instant = now
  | .cut => False

/-- Calls that have been made, and what is still to come after them. -/
def Timeline.after (past : List CallTrace) (t : Timeline α) : Timeline α :=
  { t with calls := past ++ t.calls }

namespace Process

/-- How far a process has got does not change how it will have been. -/
theorem proceed_ahead (p : Process α) (now : Instant) (past : List CallTrace) :
    ((p.proceed w now past).2.ahead w).after (p.proceed w now past).1 =
      (p.activity w now).after past := by
  induction p generalizing past with
  | finish value => rfl
  | look next ih =>
    show _ = ((Activity.now >>= fun now => (next now).activity) w now).after past
    rw [Activity.bind_now]
    exact ih now past
  | ask c deadline next ih =>
    show _ = ((Activity.ask c deadline >>= fun reply => (next reply).activity) w now).after past
    -- a call that ends now does not stop the process, and any other one does
    have hle : now ≤ (Activity.ask c deadline w now).finish :=
      ((Activity.makes_ask c deadline).gapless w now).le
    simp only [proceed]
    split
    · cases hvalue : (Activity.ask c deadline w now).value with
      | none => simp [Activity.bind_of_none hvalue, Timeline.after, Stage.ahead]
      | some reply => simp [Activity.bind_of_some hvalue, Timeline.after, Stage.ahead]
    · next hnow =>
      have hfinish : (Activity.ask c deadline w now).finish = now := by lia
      cases hvalue : (Activity.ask c deadline w now).value with
      | none => simp [Activity.bind_of_none hvalue, Timeline.after, Stage.ahead, hfinish]
      | some reply =>
        rw [Activity.bind_of_some hvalue, hfinish]
        refine (ih reply _).trans ?_
        simp [Timeline.after]

theorem proceed_since (p : Process α) (now : Instant) (past : List CallTrace) :
    (p.proceed w now past).2.Since now := by
  induction p generalizing past with
  | finish value => rfl
  | look next ih => exact ih now past
  | ask c deadline next ih =>
    simp only [proceed]
    split
    · assumption
    · split
      · exact ih _ _
      · rfl

/-- A process that waits has made a call. -/
theorem length_lt_proceed (p : Process α) (now : Instant) (past : List CallTrace)
    (h : (p.proceed w now past).2.isWaiting = true) :
    past.length < (p.proceed w now past).1.length := by
  induction p generalizing past with
  | finish value => cases h
  | look next ih => exact ih now past h
  | ask c deadline next ih =>
    obtain ⟨fate, hcalls⟩ := (w now c).course_calls c (deadline - now) now
    rw [← Activity.ask_eq] at hcalls
    simp only [proceed] at h ⊢
    split
    · simp [hcalls]
    · next hnow =>
      rw [if_neg hnow] at h
      cases hvalue : (Activity.ask c deadline w now).value with
      | none =>
        rw [hvalue] at h
        cases h
      | some reply =>
        rw [hvalue] at h
        have hrest := ih reply _ h
        rw [List.length_append] at hrest
        exact Nat.lt_of_le_of_lt (Nat.le_add_right _ _) hrest

end Process

namespace Thread

/-- A process at its start, which goes on at once. -/
def start (p : Process α) (now : Instant) : Thread α where
  program := p
  calls := (p.proceed w now []).1
  stage := (p.proceed w now []).2

/-- A thread whose wait is over goes on. -/
def resume (t : Thread α) : Thread α :=
  match t.stage with
  | .waiting due none => { t with stage := .ended due none }
  | .waiting due (some p) =>
    { t with calls := (p.proceed w due t.calls).1, stage := (p.proceed w due t.calls).2 }
  | _ => t

/-- How the thread will have been, if it is not broken off. -/
def course (t : Thread α) : Timeline α := (t.stage.ahead w).after t.calls

variable {w} {t : Thread α} {now due : Instant} {rest : Option (Process α)}

theorem course_start (p : Process α) (now : Instant) :
    (start w p now).course w = p.activity w now :=
  p.proceed_ahead w now []

theorem since_start (p : Process α) (now : Instant) : (start w p now).stage.Since now :=
  p.proceed_since w now []

theorem course_resume (t : Thread α) : (t.resume w).course w = t.course w := by
  unfold resume course
  split
  · next hstage => simp only [hstage, Stage.ahead]
  · next due p hstage =>
    simp only [hstage, Stage.ahead]
    exact p.proceed_ahead w due t.calls
  · rfl

theorem since_resume (h : t.stage = .waiting due rest) : (t.resume w).stage.Since due := by
  unfold resume
  cases rest with
  | none =>
    simp only [h]
    rfl
  | some p =>
    simp only [h]
    exact p.proceed_since w due t.calls

theorem calls_start_ne_nil {p : Process α} (h : (start w p now).stage.isWaiting = true) :
    (start w p now).calls ≠ [] :=
  List.ne_nil_of_length_pos (p.length_lt_proceed w now [] h)

theorem length_lt_resume (h : t.stage = .waiting due rest)
    (hwaits : (t.resume w).stage.isWaiting = true) :
    t.calls.length < (t.resume w).calls.length := by
  unfold resume at hwaits ⊢
  cases rest with
  | none =>
    simp only [h] at hwaits
    cases hwaits
  | some p =>
    simp only [h] at hwaits ⊢
    exact p.length_lt_proceed w due t.calls hwaits

theorem program_resume (t : Thread α) : (t.resume w).program = t.program := by
  unfold resume
  split <;> rfl

end Thread

end

end TxGateway
