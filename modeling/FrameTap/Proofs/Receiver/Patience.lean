import FrameTap.Receiver.Waiting

set_option autoImplicit false

namespace FrameTap

variable {σ α β : Type}

/-- Wherever `less` comes to something that is settled, `more` comes to the same. -/
def Outlasts (settled : α → Prop) (more less : StateM σ α) : Prop :=
  ∀ world, settled (less world).1 → more world = less world

-- The answer of an action that may run out of patience.
abbrev Answered (answer : Option α) : Prop := answer.isSome = true

namespace Outlasts

variable {settled : α → Prop} {known : β → Prop} {more less : StateM σ β}
  {further rest : β → StateM σ α}

theorem refl (action : StateM σ α) : Outlasts settled action action := fun _ _ => rfl

theorem silent (action : StateM σ (Option β)) : Outlasts Answered action (pure none) :=
  fun _ answered => absurd answered Bool.false_ne_true

theorem bind (first : Outlasts known more less)
    (lost : ∀ value, ¬ known value → ∀ world, ¬ settled (rest value world).1)
    (next : ∀ value, known value → Outlasts settled (further value) (rest value)) :
    Outlasts settled (more >>= further) (less >>= rest) := by
  intro world done
  have came : known (less world).1 :=
    Classical.byContradiction fun unknown => lost _ unknown _ done
  change further (more world).1 (more world).2 = rest (less world).1 (less world).2
  rw [first world came]
  exact next _ came _ done

theorem after (action : StateM σ β)
    (next : ∀ value, Outlasts settled (further value) (rest value)) :
    Outlasts settled (action >>= further) (action >>= rest) :=
  fun world done => next (action world).1 (action world).2 done

theorem bind_answer {more less : StateM σ (Option β)}
    {further rest : Option β → StateM σ (Option α)} (first : Outlasts Answered more less)
    (lost : rest none = pure none)
    (next : ∀ value, Outlasts Answered (further (some value)) (rest (some value))) :
    Outlasts Answered (more >>= further) (less >>= rest) := by
  refine first.bind (fun value unknown world => ?_) fun value known => ?_
  · rw [Option.not_isSome_iff_eq_none.mp unknown, lost]
    exact Bool.false_ne_true
  · obtain ⟨found, rfl⟩ := Option.isSome_iff_exists.mp known
    exact next found

end Outlasts

namespace Event

variable {less more : Nat} (order : less ≤ more) {event : Event (StateM σ)}
  (env : Surroundings (StateM σ))

include order

theorem takeThrough_outlasts (take : StateM σ (Except SystemFault Take)) :
    Outlasts Answered (takeThrough take more) (takeThrough take less) := by
  induction less generalizing more with
  | zero => exact .silent _
  | succ less ih =>
    obtain ⟨more, rfl⟩ := Nat.exists_eq_add_of_le' (Nat.zero_lt_of_lt order)
    refine .after take fun answer => ?_
    match answer with
    | .error _ | .ok .taken | .ok .empty => exact .refl _
    | .ok .interrupted => exact ih (Nat.le_of_succ_le_succ order)

theorem drain_outlasts : Outlasts Answered (event.drain more) (event.drain less) := by
  induction less generalizing more with
  | zero => exact .silent _
  | succ less ih =>
    obtain ⟨more, rfl⟩ := Nat.exists_eq_add_of_le' (Nat.zero_lt_of_lt order)
    refine .after event.takeNow fun answer => ?_
    match answer with
    | .error _ | .ok false => exact .refl _
    | .ok true => exact ih (Nat.le_of_succ_le_succ order)

theorem awaitSignal_outlasts (timeout : Option Nanoseconds) :
    Outlasts Answered (event.awaitSignal env timeout more)
      (event.awaitSignal env timeout less) := by
  match timeout with
  | none => exact takeThrough_outlasts order _
  | some 0 => exact .refl _
  | some (timeout + 1) => exact .after _ fun now => takeThrough_outlasts order _

theorem wait_outlasts (timeout : Option Nanoseconds) :
    Outlasts Answered (event.wait env timeout more) (event.wait env timeout less) := by
  refine (awaitSignal_outlasts order env timeout).bind_answer rfl fun answer => ?_
  match answer with
  | .error _ | .ok false => exact .refl _
  | .ok true =>
    refine (drain_outlasts order).bind_answer rfl fun drained => ?_
    match drained with
    | .error _ | .ok () => exact .refl _

end Event

namespace Connection

variable {less more : Nat} (order : less ≤ more) {connection : Connection (StateM σ)}
  (env : Surroundings (StateM σ)) (pollInterval : Nanoseconds)

include order

theorem pause_outlasts (remaining : Option Nanoseconds) :
    Outlasts Answered (connection.pause env pollInterval remaining more)
      (connection.pause env pollInterval remaining less) := by
  unfold pause
  cases connection.event with
  | none => exact .refl _
  | some event => exact Event.wait_outlasts order env remaining

theorem waitRounds_outlasts (deadline : Option Nanoseconds) :
    Outlasts Answered (connection.waitRounds env pollInterval deadline more)
      (connection.waitRounds env pollInterval deadline less) := by
  induction less generalizing more with
  | zero => exact .silent _
  | succ less ih =>
    obtain ⟨more, rfl⟩ := Nat.exists_eq_add_of_le' (Nat.zero_lt_of_lt order)
    refine .after _ fun left => ?_
    match left with
    | none => exact .refl _
    | some left =>
      refine (pause_outlasts order env pollInterval left).bind_answer rfl fun answer => ?_
      match answer with
      | .error _ | .ok false => exact .refl _
      | .ok true =>
        refine .after _ fun pending => ?_
        match pending with
        | .error _ | .ok true => exact .refl _
        | .ok false => exact ih (Nat.le_of_succ_le_succ order)

theorem wait_outlasts (timeout : Option Nanoseconds) :
    Outlasts Answered (connection.wait env timeout pollInterval more)
      (connection.wait env timeout pollInterval less) := by
  refine .after _ fun pending => ?_
  match pending, timeout with
  | .error _, _ | .ok true, _ | .ok false, some 0 => exact .refl _
  | .ok false, none => exact waitRounds_outlasts order env pollInterval none
  | .ok false, some (timeout + 1) =>
    exact .after _ fun now => waitRounds_outlasts order env pollInterval _

end Connection

namespace Receiver

def Outlasts (more less : ReceiverM (StateM σ) (Option α)) : Prop :=
  ∀ receiver, FrameTap.Outlasts (Answered ·.1) (more receiver) (less receiver)

namespace Outlasts

theorem refl (action : ReceiverM (StateM σ) (Option α)) : Outlasts action action :=
  fun _ => .refl _

theorem silent (action : ReceiverM (StateM σ) (Option α)) : Outlasts action (pure none) :=
  fun _ _ answered => absurd answered Bool.false_ne_true

theorem get_bind {further rest : Receiver (StateM σ) → ReceiverM (StateM σ) (Option α)}
    (next : ∀ receiver, Outlasts (further receiver) (rest receiver)) :
    Outlasts (get >>= further) (get >>= rest) :=
  fun receiver => next receiver receiver

theorem after (action : ReceiverM (StateM σ) β)
    {further rest : β → ReceiverM (StateM σ) (Option α)}
    (next : ∀ value, Outlasts (further value) (rest value)) :
    Outlasts (action >>= further) (action >>= rest) :=
  fun receiver => .after (action receiver) fun outcome => next outcome.1 outcome.2

theorem bind {more less : ReceiverM (StateM σ) (Option β)}
    {further rest : Option β → ReceiverM (StateM σ) (Option α)} (first : Outlasts more less)
    (lost : ∀ receiver world, (rest none receiver world).1.1 = none)
    (next : ∀ value, Outlasts (further (some value)) (rest (some value))) :
    Outlasts (more >>= further) (less >>= rest) := by
  intro receiver
  change FrameTap.Outlasts _ (more receiver >>= fun outcome => further outcome.1 outcome.2)
    (less receiver >>= fun outcome => rest outcome.1 outcome.2)
  refine (first receiver).bind (fun outcome unknown world => ?_) fun outcome known => ?_
  · rw [Option.not_isSome_iff_eq_none.mp unknown, Answered, lost]
    exact Bool.false_ne_true
  · obtain ⟨found, same⟩ := Option.isSome_iff_exists.mp known
    rw [same]
    exact next found outcome.2

theorem lift_bind {more less : StateM σ (Option β)}
    {further rest : Option β → ReceiverM (StateM σ) (Option α)}
    (first : FrameTap.Outlasts Answered more less)
    (lost : ∀ receiver world, (rest none receiver world).1.1 = none)
    (next : ∀ value, Outlasts (further (some value)) (rest (some value))) :
    Outlasts (liftM more >>= further) (liftM less >>= rest) := by
  refine Outlasts.bind (fun receiver => ?_) lost next
  change FrameTap.Outlasts _ (more >>= fun value => pure (value, receiver))
    (less >>= fun value => pure (value, receiver))
  exact first.bind (fun _ unknown _ => unknown) fun _ _ => .refl _

end Outlasts

theorem waitForFrame_outlasts {less more : Nat} (order : less ≤ more)
    (env : Surroundings (StateM σ)) (timeout : Option Nanoseconds) :
    Outlasts (waitForFrame env timeout more) (waitForFrame env timeout less) := by
  refine .get_bind fun receiver => ?_
  cases receiver.connection with
  | none => exact .refl _
  | some connection =>
    refine .lift_bind (Connection.wait_outlasts order env _ timeout) (fun _ _ => rfl)
      fun answer => ?_
    match answer with
    | .error _ | .ok _ => exact .refl _

end Receiver

end FrameTap
