import FrameTap.Surroundings
import Mathlib.Logic.Relation

/-!
A consumer and a producer that work at the same time. What the consumer does is a dialogue with the
machine, one question after the other; between any two of them the producer may change the region
and post the semaphore.
-/

set_option autoImplicit false

namespace FrameTap

inductive Ask
  | read (offset length : Nat)
  -- Blocks until there is something to take, or until the deadline if there is one.
  | take (deadline : Option WallTime)
  | tryTake
  | now
  | wallClock

abbrev Ask.Answer : Ask → Type
  | .read _ _ => Bytes
  | .take _ => Take
  | .tryTake => Take
  | .now => Nanoseconds
  | .wallClock => WallTime

def Ask.Blocks : Ask → Prop
  | .take _ => True
  | _ => False

inductive Dialogue (α : Type) : Type
  | done (value : α)
  | ask (question : Ask) (next : question.Answer → Dialogue α)

namespace Dialogue

variable {α β : Type}

def bind : Dialogue α → (α → Dialogue β) → Dialogue β
  | done value, rest => rest value
  | ask question next, rest => ask question fun answer => (next answer).bind rest

instance : Monad Dialogue where
  pure := done
  bind := bind

@[simp] theorem done_bind (value : α) (rest : α → Dialogue β) :
    (done value).bind rest = rest value :=
  rfl

theorem bind_done (dialogue : Dialogue α) : dialogue.bind done = dialogue := by
  induction dialogue with
  | done value => rfl
  | ask question next ih => exact congrArg (ask question) (funext ih)

theorem bind_bind {γ : Type} (dialogue : Dialogue α) (first : α → Dialogue β)
    (second : β → Dialogue γ) :
    (dialogue.bind first).bind second = dialogue.bind fun value => (first value).bind second := by
  induction dialogue with
  | done value => rfl
  | ask question next ih => exact congrArg (ask question) (funext ih)

instance : LawfulMonad Dialogue :=
  LawfulMonad.mk' Dialogue (fun dialogue => bind_done dialogue) (fun _ _ => rfl) bind_bind

def one (question : Ask) : Dialogue question.Answer := ask question done

def mapping (size : Nat) : Mapping Dialogue where
  size := size
  read offset length := one (.read offset length)

def takeUntil (deadline : Option WallTime) : Dialogue (Except SystemFault Take) := do
  let answer ← one (.take deadline)
  return .ok answer

-- No call on the semaphore fails.
def semaphore : Semaphore Dialogue where
  take := takeUntil none
  takeBefore deadline := takeUntil (some deadline)
  tryTake := do
    let answer ← one .tryTake
    return .ok answer

def surroundings (size : Nat) : Surroundings Dialogue where
  openRegion _ := return .ok (mapping size)
  openSemaphore _ := return .ok semaphore
  now := one .now
  wallClock := one .wallClock
  sleep _ := return ()
  log _ := return ()

end Dialogue

structure Scene (size : Nat) where
  region : Bytes
  sized : region.length = size
  count : Nat
  unposted : Nat

namespace Scene

variable {size : Nat}

/-- What the producer does in one step: it publishes, changing the region as it likes, or posts one
of its publications. -/
inductive Change : Scene size → Scene size → Prop
  | publish {scene : Scene size} {region : Bytes} (sized : region.length = size) :
      Change scene { scene with region, sized, unposted := scene.unposted + 1 }
  | post {scene : Scene size} {unposted : Nat} (due : scene.unposted = unposted + 1) :
      Change scene { scene with count := scene.count + 1, unposted }

abbrev Changes : Scene size → Scene size → Prop := Relation.ReflTransGen Change

/-- How a question may be answered, and what the answer leaves. A take that finds nothing is not
answered unless a signal interrupts it or its deadline passes. -/
inductive Answers (scene : Scene size) : (question : Ask) → question.Answer → Scene size → Prop
  | read {offset length : Nat} :
      Answers scene (.read offset length) (scene.region.slice offset length) scene
  | taken {deadline : Option WallTime} {count : Nat} (available : scene.count = count + 1) :
      Answers scene (.take deadline) Take.taken { scene with count }
  | passed {deadline : WallTime} : Answers scene (.take (some deadline)) Take.empty scene
  | interrupted {deadline : Option WallTime} :
      Answers scene (.take deadline) Take.interrupted scene
  | tryTaken {count : Nat} (available : scene.count = count + 1) :
      Answers scene .tryTake Take.taken { scene with count }
  | nothing (spent : scene.count = 0) : Answers scene .tryTake Take.empty scene
  | tryInterrupted : Answers scene .tryTake Take.interrupted scene
  | now {time : Nanoseconds} : Answers scene .now time scene
  | wallClock {time : WallTime} : Answers scene .wallClock time scene

/-- The region is quiet, or there is a post to wake up for, now or as soon as the producer comes to
it. -/
def Covered (quiet : Bytes → Prop) (scene : Scene size) : Prop :=
  quiet scene.region ∨ 0 < scene.count + scene.unposted

variable {quiet : Bytes → Prop} {scene later : Scene size}

-- Whatever the producer does leaves a post to wake up for.
theorem Change.covered (change : scene.Change later) : later.Covered quiet := by
  cases change with
  | publish sized => exact Or.inr (Nat.succ_pos _)
  | post due => exact Or.inr (Nat.lt_of_lt_of_le (Nat.succ_pos _) (Nat.le_add_right _ _))

theorem Covered.changes (covered : scene.Covered quiet) (changes : scene.Changes later) :
    later.Covered quiet := by
  induction changes with
  | refl => exact covered
  | tail _ change _ => exact change.covered

end Scene

namespace Dialogue

variable {size : Nat} {α β : Type} {quiet : Bytes → Prop}

/-- Whatever the producer does meanwhile, the dialogue blocks in covered scenes only, and what it
ends with satisfies `post`. -/
def Safe (quiet : Bytes → Prop) (post : α → Scene size → Prop) : Dialogue α → Scene size → Prop
  | done value, scene => ∀ later, scene.Changes later → post value later
  | ask question next, scene => ∀ later, scene.Changes later →
      (question.Blocks → later.Covered quiet) ∧
        ∀ answer after, later.Answers question answer after → (next answer).Safe quiet post after

variable {post : α → Scene size → Prop} {scene later : Scene size}

theorem Safe.changes {dialogue : Dialogue α} (safe : dialogue.Safe quiet post scene)
    (changes : scene.Changes later) : dialogue.Safe quiet post later := by
  cases dialogue with
  | done value => exact fun final more => safe final (changes.trans more)
  | ask question next => exact fun final more => safe final (changes.trans more)

theorem Safe.bind {dialogue : Dialogue β} {rest : β → Dialogue α}
    (safe : dialogue.Safe quiet (fun value scene => (rest value).Safe quiet post scene) scene) :
    (dialogue >>= rest).Safe quiet post scene := by
  induction dialogue generalizing scene with
  | done value => exact safe scene .refl
  | ask question next ih =>
    intro later changes
    obtain ⟨covered, answered⟩ := safe later changes
    exact ⟨covered, fun answer after given => ih answer (answered answer after given)⟩

theorem Safe.mono {dialogue : Dialogue α} {weaker : α → Scene size → Prop}
    (safe : dialogue.Safe quiet post scene)
    (implies : ∀ value scene, post value scene → weaker value scene) :
    dialogue.Safe quiet weaker scene := by
  induction dialogue generalizing scene with
  | done value => exact fun later changes => implies value later (safe later changes)
  | ask question next ih =>
    intro later changes
    obtain ⟨covered, answered⟩ := safe later changes
    exact ⟨covered, fun answer after given => ih answer (answered answer after given)⟩

def Unblocked (post : α → Prop) : Dialogue α → Prop
  | done value => post value
  | ask question next => ¬question.Blocks ∧ ∀ answer, (next answer).Unblocked post

abbrev Prompt (dialogue : Dialogue α) : Prop := dialogue.Unblocked fun _ => True

variable {result : α → Prop}

theorem Unblocked.safe {dialogue : Dialogue α} (free : dialogue.Unblocked result) :
    dialogue.Safe quiet (fun value _ => result value) scene := by
  induction dialogue generalizing scene with
  | done value => exact fun _ _ => free
  | ask question next ih =>
    intro later changes
    exact ⟨fun blocks => absurd blocks free.1, fun answer after _ => ih answer (free.2 answer)⟩

theorem Unblocked.bind {dialogue : Dialogue β} {rest : β → Dialogue α} {middle : β → Prop}
    (free : dialogue.Unblocked middle)
    (go : ∀ value, middle value → (rest value).Unblocked result) :
    (dialogue >>= rest).Unblocked result := by
  induction dialogue with
  | done value => exact go value free
  | ask question next ih => exact ⟨free.1, fun answer => ih answer (free.2 answer)⟩

end Dialogue

end FrameTap
