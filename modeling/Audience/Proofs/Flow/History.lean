import Audience.Proofs.Flow.Pool

/-!
# The history of a pool

The changes of the shared state that a pool keeps are all there are: each of
them begins where the one before it ended.
-/

namespace Audience

/-- The changes lead from one state to the other without a gap. -/
def Chained {σ : Type} (start : σ) : List (σ × σ) → σ → Prop
  | [], last => start = last
  | change :: rest, last => change.1 = start ∧ Chained change.2 rest last

namespace Chained

variable {σ : Type}

/-- Changes in a row are chained part by part. -/
theorem append {start middle last : σ} {early late : List (σ × σ)}
    (first : Chained start early middle) (second : Chained middle late last) :
    Chained start (early ++ late) last := by
  induction early generalizing start with
  | nil =>
      cases first
      exact second
  | cons change rest ih => exact ⟨first.1, ih first.2⟩

/-- What follows a change is chained from where the change ended. -/
theorem of_append {start last : σ} {early late : List (σ × σ)}
    {change : σ × σ} (chained : Chained start (early ++ change :: late) last) :
    Chained start early change.1 ∧ Chained change.2 late last := by
  induction early generalizing start with
  | nil => exact ⟨chained.1.symm, chained.2⟩
  | cons first rest ih =>
      obtain ⟨before, after⟩ := ih chained.2
      exact ⟨⟨chained.1, before⟩, after⟩

/-- What every change does, they do together, up to any of the states on the
way. -/
theorem related {relation : σ → σ → Prop} {start last : σ}
    {changes : List (σ × σ)} (chained : Chained start changes last)
    (refl : ∀ state, relation state state)
    (trans : ∀ {first second third}, relation first second →
      relation second third → relation first third)
    (each : ∀ change ∈ changes, relation change.1 change.2) :
    ∀ state ∈ last :: changes.map Prod.fst, relation start state := by
  induction changes generalizing start with
  | nil =>
      cases chained
      intro state member
      rw [List.map_nil, List.mem_singleton] at member
      exact member ▸ refl _
  | cons change rest ih =>
      obtain ⟨rfl, chained⟩ := chained
      have later := ih chained fun other member =>
        each other (List.mem_cons_of_mem _ member)
      have first := each change (List.mem_cons_self ..)
      intro state member
      simp only [List.map_cons, List.mem_cons] at member later
      obtain final | here | further := member
      · exact trans first (later state (.inl final))
      · exact here ▸ refl _
      · exact trans first (later state (.inr further))

end Chained

/-- The changes of a stretch lead from its beginning to its end. -/
theorem Flow.stretch_chained {σ α : Type} (flow : Flow σ α) (now : σ) :
    Chained now (flow.stretch now).changes (flow.stretch now).state := by
  induction flow generalizing now with
  | done result => rfl
  | fail fault => rfl
  | inspect next ih => exact ih now now
  | update state next ih => exact ⟨rfl, ih state⟩
  | send call next => rfl
  | acquire lock next => rfl
  | release lock next ih => exact ih now
  | restored engine next => rfl

namespace Scene

variable {σ β ι α : Type} {scene : Scene σ β ι α} {start : σ} {server : β}
variable {pool : Pool σ β α}

/-- One thing that happens in a pool continues its history. -/
theorem Step.chained {next : Pool σ β α} (step : scene.Step pool next)
    (chained : Chained start pool.changes pool.world.state) :
    Chained start next.changes next.world.state := by
  cases step with
  | start task admitted => exact chained.append (Flow.stretch_chained _ _)
  | begin before after waits => exact chained.append (Flow.stretch_chained _ _)
  | handle before after server waits served => exact chained
  | deliver before after waits =>
      exact chained.append (Flow.stretch_chained _ _)
  | lock before after waits free =>
      exact chained.append (Flow.stretch_chained _ _)
  | learn before after waits known =>
      exact chained.append (Flow.stretch_chained _ _)

/-- The history of a pool leads from where it began to where it is. -/
theorem Reach.chained (reached : scene.Reach (.fresh start server) pool) :
    Chained start pool.changes pool.world.state := by
  induction reached with
  | refl => rfl
  | step before step ih => exact step.chained ih

end Scene
end Audience
