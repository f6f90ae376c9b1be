/-
  ShardBridge.Proofs.Session.Coupling

  One program on two handles.  All that a program does on a handle are remarks
  and exchanges, and it goes on by how the exchanges come out.  So two runs of
  it stay together as long as the exchanges come out the same on both handles,
  and what relates the handles is kept if remarks and exchanges keep it
  (`Coupling.Lawful`).  An exchange may also set the runs apart; then what each
  of them does is its own affair.

    * `Coupling` -- how the handles are related, which requests are alike, and
      which ones set the runs apart;
    * `Coupling.Together` -- the runs stay together, or they are set apart;
    * `Coupling.Lawful.recovery`, `Coupling.Lawful.activity` -- one handler, and
      one callback, on both handles.
-/
import ShardBridge.Proofs.Session.Request

namespace ShardBridge

/-- How two runs of one program are compared. -/
structure Coupling where
  /-- The handles, while the runs are together. -/
  related : Transport → Transport → Prop
  /-- Two requests that both runs make, and after which they are together. -/
  alike : Request → Request → Prop
  /-- Two requests at which the runs are set apart. -/
  parts : Request → Request → Prop

namespace Coupling

variable {C : Coupling} {α β : Type} {t t' : Transport}

/-- The program comes out the same on both handles, and they are still related; or it makes requests
    that set the runs apart. -/
inductive Together (C : Coupling) (qs qs' : List Request) (a a' : α × Transport) : Prop
  | goes {result : α} {u u' : Transport} (ha : a = (result, u)) (ha' : a' = (result, u'))
      (h : C.related u u') (hqs : List.Forall₂ C.alike qs qs')
  | parts {q q' : Request} (hq : q ∈ qs) (hq' : q' ∈ qs') (h : C.parts q q')

/-- What goes on from there is together as well. -/
theorem Together.bind {qs qs' rs rs' : List Request} {a a' : α × Transport}
    {b b' : β × Transport} (h : C.Together qs qs' a a')
    (hnext : ∀ {result u u'}, a = (result, u) → a' = (result, u') → C.related u u' →
      C.Together rs rs' b b') :
    C.Together (qs ++ rs) (qs' ++ rs') b b' := by
  cases h with
  | parts hq hq' hparts =>
    exact .parts (List.mem_append_left _ hq) (List.mem_append_left _ hq') hparts
  | goes ha ha' hrelated hqs =>
    cases hnext ha ha' hrelated with
    | parts hq hq' hparts =>
      exact .parts (List.mem_append_right _ hq) (List.mem_append_right _ hq') hparts
    | goes hb hb' hrelated' hrs => exact .goes hb hb' hrelated' (List.rel_append hqs hrs)

/-- Lists whose items correspond in a value have the same values. -/
theorem map_eq_of_forall₂ {f : α → β} {as as' : List α}
    (h : List.Forall₂ (fun a a' => f a' = f a) as as') : as'.map f = as.map f := by
  have heq : List.Forall₂ (· = ·) (as'.map f) (as.map f) := by
    rw [List.forall₂_map_left_iff, List.forall₂_map_right_iff]
    exact h.flip
  rwa [List.forall₂_eq_eq_eq] at heq

/-- Remarks keep the handles related, and exchanges keep the runs together or set them apart. -/
structure Lawful (C : Coupling) : Prop where
  remark : ∀ {t t' : Transport} (r : Remark), C.related t t' →
    C.related (t.record r.event) (t'.record r.event)
  exchange : ∀ {t t' : Transport} (target : CheckpointTarget), C.related t t' →
    C.Together [⟨target, t⟩] [⟨target, t'⟩] (t.exchange target) (t'.exchange target)

variable (L : C.Lawful)

include L

/-- One handler on two handles. -/
theorem Lawful.recovery (r : Recovery) (h : C.related t t') :
    C.Together (r.requests t) (r.requests t') (r.run t) (r.run t') := by
  induction r generalizing t t' with
  | finish result => exact .goes rfl rfl h .nil
  | remark r next ih =>
    rw [Recovery.requests, Recovery.requests, Recovery.run, Recovery.run]
    exact ih (L.remark r h)
  | checkpoint target handler next ihh ihn =>
    rw [Recovery.requests, Recovery.requests, Recovery.run, Recovery.run]
    have hexchange := L.exchange target h
    generalize t.exchange target = x at hexchange ⊢
    generalize t'.exchange target = x' at hexchange ⊢
    refine hexchange.bind fun {result t₁ t₁'} hx hx' hrelated => ?_
    rw [hx, hx']
    -- By the answer, which is the same on both handles.
    rcases result with e | _ | error <;> dsimp only
    · exact ihn _ hrelated
    · exact ihn _ hrelated
    · refine (ihh target error hrelated).bind fun hx hx' hrelated' => ?_
      rw [hx, hx']
      exact ihn _ hrelated'

end Coupling

/-- What a callback comes out with, and the handle after it. -/
def Activity.Ending.parts {σ : Type} (e : Activity.Ending σ) :
    (σ × Except ProcessorError Unit) × Transport :=
  ((e.state, e.outcome), e.transport)

theorem Activity.Ending.eq_of_parts {σ : Type} {e : Activity.Ending σ} {state : σ}
    {outcome : Except ProcessorError Unit} {t : Transport}
    (h : e.parts = ((state, outcome), t)) : e = ⟨state, outcome, t⟩ := by
  obtain ⟨hresult, rfl⟩ := Prod.mk.inj h
  obtain ⟨rfl, rfl⟩ := Prod.mk.inj hresult
  rfl

/-- One callback on two handles. -/
theorem Coupling.Lawful.activity {C : Coupling} (L : C.Lawful) {access : Access} {σ : Type}
    (a : Activity access σ) {t t' : Transport} (h : C.related t t') :
    C.Together (a.requests t) (a.requests t') (a.run t).parts (a.run t').parts := by
  induction a generalizing t t' with
  | finish state outcome => exact .goes rfl rfl h .nil
  | remark r next ih =>
    rw [Activity.requests, Activity.requests, Activity.run, Activity.run]
    exact ih (L.remark r h)
  | checkpoint allowed target handler next ih =>
    rw [Activity.requests, Activity.requests, Activity.run, Activity.run]
    refine (L.recovery (.checkpoint target handler .finish) h).bind fun hx hx' hrelated => ?_
    rw [Transport.checkpoint, Transport.checkpoint, hx, hx']
    exact ih _ hrelated

end ShardBridge
