/-! Operations that can be refused half-way. -/
namespace MatcherHost

/-- What an operation leaves behind, and why it was refused if it was. A refusal undoes nothing,
so the state counts in both cases. -/
structure Effect (ρ σ : Type) where
  state : σ
  refusal : Option ρ := none

namespace Effect

variable {ρ σ τ : Type}

def done (state : σ) : Effect ρ σ := ⟨state, none⟩

def refused (state : σ) (reason : ρ) : Effect ρ σ := ⟨state, some reason⟩

def within (put : σ → τ) (effect : Effect ρ σ) : Effect ρ τ := ⟨put effect.state, effect.refusal⟩

def mapRefusal {π : Type} (f : ρ → π) (effect : Effect ρ σ) : Effect π σ :=
  ⟨effect.state, effect.refusal.map f⟩

@[simp] theorem done_state (state : σ) : (done state : Effect ρ σ).state = state := rfl

@[simp] theorem done_refusal (state : σ) : (done state : Effect ρ σ).refusal = none := rfl

@[simp] theorem refused_refusal (state : σ) (reason : ρ) :
    (refused state reason).refusal = some reason := rfl

@[simp] theorem within_done (put : σ → τ) (state : σ) :
    (done state : Effect ρ σ).within put = done (put state) := rfl

@[simp] theorem mapRefusal_done {π : Type} (f : ρ → π) (state : σ) :
    (done state : Effect ρ σ).mapRefusal f = done state := rfl

@[simp] theorem mapRefusal_refused {π : Type} (f : ρ → π) (state : σ) (reason : ρ) :
    (refused state reason).mapRefusal f = refused state (f reason) := rfl

end Effect
end MatcherHost
