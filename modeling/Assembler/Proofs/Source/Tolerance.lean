import Assembler.Proofs.Source.Verdict

/-! Strict and tolerant compilation. The two take the same steps and differ only in what an error
does, up to the first directive that sets the mode. -/
namespace Assembler.Source

theorem trace_tolerant (settings : Settings) (tolerant : Bool) (lines : List Text) :
    trace { settings with tolerant } lines = trace settings lines := rfl

/-- Either the mode at the start makes no difference to how the steps end, or strict mode stops at
the first error there is. -/
theorem fatal?_strict_or_first (steps : List Step) :
    fatal? true steps = fatal? false steps
      ∨ ∃ error, fatal? false steps = some error
        ∧ (steps.filterMap Step.error?).head? = some error := by
  induction steps with
  | nil => exact Or.inl rfl
  | cons step rest ih =>
    cases outcome : step.outcome with
    | error fault =>
      refine Or.inr ⟨⟨step.line, fault⟩, ?_, ?_⟩
      · simp [fatal?, outcome]
      · simp [Step.error?, outcome]
    | ok effect =>
      have silent : Step.error? step = none := by simp [Step.error?, outcome]
      simp only [fatal?, outcome, List.filterMap_cons, silent]
      cases effect with
      | tolerate on => exact Or.inl rfl
      | _ => exact ih

/-- What strict mode accepts, tolerant mode compiles to the same result. Where strict mode refuses
and tolerant mode does not, the error is the first of those skipped; so nothing skipped means that
strict mode accepts too. -/
theorem strict_tolerant_agree (settings : Settings) (lines : List Text) :
    let strict := compile { settings with tolerant := false } lines
    let tolerant := compile { settings with tolerant := true } lines
    (∀ compiled, strict = .ok compiled → tolerant = .ok compiled)
    ∧ (∀ error compiled, strict = .error error → tolerant = .ok compiled →
        compiled.skipped.head? = some error)
    ∧ (∀ compiled, tolerant = .ok compiled → compiled.skipped = [] → strict = .ok compiled) := by
  simp only [compile_eq_ok_iff, compile_eq_error_iff, trace_tolerant]
  rcases fatal?_strict_or_first (trace settings lines) with same | ⟨first, stops, head⟩
  · rw [same]
    refine ⟨fun _ accepted => accepted, ?_, fun _ accepted _ => accepted⟩
    rintro error compiled stops ⟨passes, -⟩
    rw [stops] at passes
    cases passes
  · refine ⟨?_, ?_, ?_⟩
    · rintro compiled ⟨passes, -⟩
      rw [stops] at passes
      cases passes
    · rintro error compiled same ⟨-, rfl⟩
      rw [stops] at same
      cases same
      exact head
    · rintro compiled ⟨-, rfl⟩ nothing
      dsimp only at nothing
      rw [nothing] at head
      cases head

end Assembler.Source
