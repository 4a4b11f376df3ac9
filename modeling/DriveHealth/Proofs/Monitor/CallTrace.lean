/-
# Which calls a run makes

A step makes a call exactly when it is a refresh or what is kept does not serve the kind it asks for, and
never a second one. What is kept only grows between refreshes: from nothing to the default output to
all. So each kind is accepted once at most, the default one first, and after all of it no call is made.

Key definitions: `Serves`, `Cache.missing`.
Key theorems: `Step.exists_held_iff`, `accepted_append_missing_sublist`, `calls_follow_cache`.
-/
import DriveHealth.Proofs.Monitor.Moves

namespace DriveHealth

/-- Output of the kind that is kept, if any is, serves a request: all of it serves both kinds, the
default output only its own. -/
inductive Serves : Option OutputKind → OutputKind → Prop
  | all (wanted : OutputKind) : Serves (some .all) wanted
  | default : Serves (some .default) .default

variable {σ : Type} {runner : Runner σ} {m : Monitor} {q : Step} {cache : Cache} {memory : σ}

theorem covers_iff_serves {held wanted : OutputKind} :
    held.covers wanted = true ↔ Serves (some held) wanted := by
  constructor
  · intro h
    cases held with
    | all => exact .all wanted
    | default =>
      cases wanted with
      | default => exact .default
      | all => cases h
  · rintro (_ | _)
    · simp [OutputKind.covers]
    · rfl

theorem kept_of_serves_all {kept : Option OutputKind} (h : Serves kept .all) : kept = some .all := by
  cases h
  rfl

/-- A step finds its lines kept when it is no refresh and what is kept serves it. -/
theorem Step.exists_held_iff :
    (∃ lines, q.held? cache = some lines) ↔ q.isRefresh = false ∧ Serves cache.kind? q.kind := by
  rw [held?]
  cases hq : q.isRefresh with
  | true => simp
  | false =>
    simp only [Bool.false_eq_true, ↓reduceIte, Cache.lookup_eq_some, true_and]
    constructor
    · rintro ⟨lines, kind, rfl, hc⟩
      exact covers_iff_serves.mp hc
    · intro h
      rcases cache with _ | ⟨kind, lines⟩
      · cases h
      · exact ⟨lines, kind, rfl, covers_iff_serves.mpr h⟩

/-- A step makes one call or none. -/
theorem Step.calls_move :
    (q.move runner m cache memory).after.calls = if (q.held? cache).isSome then [] else [q.call m] := by
  rcases move_cases runner m q cache memory with ⟨lines, hs⟩ | ⟨run, hs, hr⟩ | ⟨e, hs, hr⟩
  · rw [move_of_held hs, hs]
    rfl
  · rw [move_of_accepted hs hr, hs]
    rfl
  · rw [move_of_failed hs hr, hs]
    rfl

/-! ### What can still be accepted -/

/-- The kinds that can be accepted before the next refresh, in this order. -/
def Cache.missing (cache : Cache) : List OutputKind :=
  match cache.kind? with
  | none => [.default, .all]
  | some .default => [.all]
  | some .all => []

theorem cons_missing_sublist_all (kind : OutputKind) (lines : List String) :
    (kind :: (Cache.filled kind lines).missing).Sublist [.default, .all] := by
  cases kind with
  | default => exact List.Sublist.refl _
  | all => exact (List.Sublist.refl [OutputKind.all]).cons _

theorem missing_sublist_all (cache : Cache) : cache.missing.Sublist [.default, .all] := by
  rcases cache with _ | ⟨_ | _, lines⟩
  · exact List.Sublist.refl _
  · exact (List.Sublist.refl [OutputKind.all]).cons _
  · exact List.nil_sublist _

/-- A kind that is accepted was missing, and those before it are no longer asked for. -/
theorem cons_missing_sublist (h : q.held? cache = none) (lines : List String) :
    (q.kind :: (Cache.filled q.kind lines).missing).Sublist (q.afterFailure cache).missing := by
  have hserves : q.isRefresh = false → ¬ Serves cache.kind? q.kind := by
    intro hq hc
    obtain ⟨held, hheld⟩ := Step.exists_held_iff.mpr ⟨hq, hc⟩
    rw [h] at hheld
    cases hheld
  rw [Step.afterFailure]
  cases hq : q.isRefresh with
  | true => exact cons_missing_sublist_all q.kind lines
  | false =>
    have hnot := hserves hq
    rcases cache with _ | ⟨_ | _, held⟩
    · exact cons_missing_sublist_all q.kind lines
    · cases hk : q.kind with
      | default => exact absurd (hk ▸ Serves.default) hnot
      | all => exact List.Sublist.refl _
    · exact absurd (Serves.all _) hnot

/-- What a move accepts was missing, and what was not missing does not become so. -/
theorem accepted_append_missing_sublist :
    ((((q.move runner m cache memory).accepted? runner).map Prod.fst).toList ++
      (q.move runner m cache memory).after.cache.missing).Sublist (q.afterFailure cache).missing := by
  rcases Step.move_cases runner m q cache memory with ⟨lines, hs⟩ | ⟨run, hs, hr⟩ | ⟨e, hs, hr⟩
  · rw [Move.accepted?_of_held hs, Step.move_of_held hs,
      Step.afterFailure_of_not_refresh (Step.isRefresh_of_held hs)]
    exact List.Sublist.refl _
  · rw [Move.accepted?_of_accepted hs hr, Step.move_of_accepted hs hr]
    exact cons_missing_sublist hs run.lines
  · rw [Move.accepted?_of_failed hs hr, Step.move_of_failed hs hr]
    exact List.Sublist.refl _

/-- The kinds of the accepted calls among some moves, in their order. -/
def acceptedKinds (runner : Runner σ) (moves : List (Move σ)) : List OutputKind :=
  (moves.filterMap (Move.accepted? runner)).map Prod.fst

theorem acceptedKinds_cons (mv : Move σ) (moves : List (Move σ)) :
    acceptedKinds runner (mv :: moves) =
      ((mv.accepted? runner).map Prod.fst).toList ++ acceptedKinds runner moves := by
  rcases h : mv.accepted? runner with _ | p <;> simp [acceptedKinds, h]

theorem acceptedKinds_sublist_missing {steps : List Step} (h : ∀ q ∈ steps, q.isRefresh = false) :
    (acceptedKinds runner (m.moves runner cache memory steps)).Sublist cache.missing := by
  induction steps generalizing cache memory with
  | nil => exact List.nil_sublist _
  | cons q rest ih =>
    rw [Monitor.moves, acceptedKinds_cons]
    refine ((ih fun x hx => h x (List.mem_cons_of_mem _ hx)).append_left _).trans ?_
    have hmissing : (q.afterFailure cache).missing = cache.missing := by
      rw [Step.afterFailure_of_not_refresh (h q List.mem_cons_self)]
    rw [← hmissing]
    exact accepted_append_missing_sublist

/-- Steps of which none but the first refreshes have the default output accepted once at most, then all
of it once at most. -/
theorem acceptedKinds_sublist_all {steps : List Step} (h : ∀ q ∈ steps.tail, q.isRefresh = false) :
    (acceptedKinds runner (m.moves runner cache memory steps)).Sublist [.default, .all] := by
  cases steps with
  | nil => exact List.nil_sublist _
  | cons q rest =>
    rw [Monitor.moves, acceptedKinds_cons]
    refine ((acceptedKinds_sublist_missing h).append_left _).trans ?_
    exact accepted_append_missing_sublist.trans (missing_sublist_all _)

/-! ### After all of it -/

/-- A step that asks for all and gets it leaves all kept. -/
theorem kind?_of_all {a : Answer} (hk : q.kind = .all) (h : (q.move runner m cache memory).answer = .ok a) :
    (q.move runner m cache memory).after.cache.kind? = some .all := by
  rcases Step.move_cases runner m q cache memory with ⟨lines, hs⟩ | ⟨run, hs, hr⟩ | ⟨e, hs, hr⟩
  · have hserves := (Step.exists_held_iff.mp ⟨lines, hs⟩).2
    rw [hk] at hserves
    rw [Step.move_of_held hs]
    exact kept_of_serves_all hserves
  · rw [Step.move_of_accepted hs hr, hk]
    rfl
  · rw [Step.move_of_failed hs hr] at h
    cases q with
    | powerMode => cases hk
    | _ => cases h

theorem calls_of_all_kept (hall : cache.kind? = some .all) {steps : List Step}
    (h : ∀ q ∈ steps, q.isRefresh = false) :
    ∀ mv ∈ m.moves runner cache memory steps, mv.after.calls = [] := by
  induction steps generalizing cache memory with
  | nil => simp [Monitor.moves]
  | cons q rest ih =>
    obtain ⟨lines, hs⟩ : ∃ lines, q.held? cache = some lines :=
      Step.exists_held_iff.mpr ⟨h q List.mem_cons_self, hall ▸ Serves.all _⟩
    intro mv hmv
    rw [Monitor.moves, Step.move_of_held hs] at hmv
    rcases List.mem_cons.mp hmv with rfl | hmv
    · rfl
    · exact ih hall (fun x hx => h x (List.mem_cons_of_mem _ hx)) mv hmv

/-- **The calls follow from what is kept.** After any steps, a next step makes a call exactly when it is a
refresh or what is kept does not serve it, and then makes the one call for its kind. Its settings are
the monitor's own unless the step brings some, and the path of the device comes last. Once all of the
output was given, no call is made before the next refresh; and from the start, or from a refresh, to
the next one the default output is accepted once at most, and then all of it once at most. -/
theorem calls_follow_cache (runner : Runner σ) (m : Monitor) (memory : σ) (steps : List Step) :
    let state := m.stateAfter runner .empty memory steps
    (∀ q : Step, let calls := (q.move runner m state.1 state.2).after.calls
      (calls ≠ [] ↔ q.isRefresh = true ∨ ¬ Serves state.1.kind? q.kind) ∧ (calls ≠ [] → calls = [q.call m])) ∧
    (∀ q : Step, (q.call m).program = m.program ∧ (q.call m).args.getLast? = some m.device.path ∧
      ((∃ kind nocheck typeHint, q = .fetchWith kind nocheck typeHint ∧
          (q.call m).args = Call.arguments kind nocheck typeHint m.device.path) ∨
        (∀ kind nocheck typeHint, q ≠ .fetchWith kind nocheck typeHint) ∧
          (q.call m).args = Call.arguments q.kind m.nocheck m.device.typeHint m.device.path)) ∧
    (∀ (q : Step) (a : Answer) (later : List Step), let mv := q.move runner m state.1 state.2
      q.kind = .all → mv.answer = .ok a → (∀ x ∈ later, x.isRefresh = false) →
        ∀ x ∈ m.moves runner mv.after.cache mv.after.memory later, x.after.calls = []) ∧
    (∀ segment : List Step, (∀ x ∈ segment.tail, x.isRefresh = false) →
      (acceptedKinds runner (m.moves runner state.1 state.2 segment)).Sublist [.default, .all]) := by
  intro state
  refine ⟨fun q => ?_, fun q => ?_, fun q a later hk ha hlater => ?_, fun segment h => ?_⟩
  · rw [Step.calls_move]
    rcases hs : q.held? state.1 with _ | lines
    · have hnot : ¬ (q.isRefresh = false ∧ Serves state.1.kind? q.kind) := by
        rw [← Step.exists_held_iff, hs]
        simp
      rw [Option.isSome_none, if_neg Bool.false_ne_true]
      refine ⟨iff_of_true (List.cons_ne_nil _ _) ?_, fun _ => rfl⟩
      cases hq : q.isRefresh with
      | true => exact .inl rfl
      | false => exact .inr fun hserves => hnot ⟨hq, hserves⟩
    · obtain ⟨hq, hserves⟩ := Step.exists_held_iff.mp ⟨lines, hs⟩
      simp [hq, hserves]
  · refine ⟨?_, ?_, ?_⟩
    · cases q <;> rfl
    · obtain ⟨nocheck, typeHint, hcall⟩ := Step.exists_call_eq m q
      rw [hcall, Monitor.callFor, Call.arguments, List.getLast?_concat]
    · cases q with
      | fetchWith kind nocheck typeHint => exact .inl ⟨kind, nocheck, typeHint, rfl, rfl⟩
      | _ => exact .inr ⟨by simp, rfl⟩
  · exact calls_of_all_kept (kind?_of_all hk ha) hlater
  · exact acceptedKinds_sublist_all h

end DriveHealth
