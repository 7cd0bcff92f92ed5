import Mathlib.Data.List.TFAE
import Mathlib.Tactic.TFAE
import ScriptLexicon.Proofs.Catalog
import ScriptLexicon.Proofs.StoredCode
import ScriptLexicon.Proofs.WalkConservation

/-!
# Letting integers in

An integer is let in as a code by a test of its range, by acceptance, by a walk that meets it, or
by reading it from a lawful format. All ways agree, and all refusals carry the integer. Names are
given to the same integers, with one exception: the upper end of the code space is a code and has
no name.
-/

namespace ScriptLexicon

variable {raw : Int32}

/-! ## Acceptance -/

namespace CodeSpace

theorem contains_iff : contains raw = true ↔ -1 ≤ raw.toInt ∧ raw.toInt ≤ 163 := Code.inSpace_iff

theorem exists_accept_iff : (∃ c, accept raw = .ok c) ↔ contains raw = true := by
  constructor
  · rintro ⟨c, hc⟩
    by_contra h
    have hrefused := accept_of_not_inSpace (c := ⟨raw⟩) (Bool.eq_false_iff.mpr h)
    rw [hrefused] at hc
    cases hc
  · intro h
    exact ⟨⟨raw⟩, accept_of_inSpace h⟩

end CodeSpace

/-- Reading and acceptance compare an integer with the same two ends. -/
theorem Stored.exists_decodeCode_int_iff {ε : Type} {F : Format ε} (hwords : F.LawfulWords)
    (hconversions : F.LawfulConversions) :
    (∃ c, F.decodeCode (.int raw.toInt) = .ok c) ↔ CodeSpace.contains raw = true := by
  rw [exists_decodeCode_iff hwords hconversions, CodeSpace.contains_iff]
  simp only [Json.int.injEq, exists_eq_left']

/-! ## Naming -/

theorem Code.name_of_not_contains (h : CodeSpace.contains raw = false) :
    (⟨raw⟩ : Code).name = .error ⟨⟨raw⟩⟩ := by
  rw [name_eq_error_self_iff]
  have hout : ¬ (-1 ≤ raw.toInt ∧ raw.toInt ≤ 163) := by
    rw [← CodeSpace.contains_iff, h]
    exact Bool.false_ne_true
  change raw.toInt < -1 ∨ 162 < raw.toInt
  omega

/-- Acceptance and naming part at the upper end of the code space, and nowhere else. -/
theorem accept_name_iff_ne_last (raw : Int32) :
    ((∃ c, CodeSpace.accept raw = .ok c) ↔ ∃ n, (⟨raw⟩ : Code).name = .ok n) ↔ raw ≠ 163 := by
  have hlast : raw = 163 ↔ raw.toInt = 163 := Int32.toInt_inj.symm
  have hvalue : (⟨raw⟩ : Code).value = raw.toInt := rfl
  rw [CodeSpace.exists_accept_iff, CodeSpace.contains_iff, Code.exists_name_iff, hvalue, ne_eq,
    hlast]
  omega

/-- **All ways of letting an integer in agree**, with each other and on the code they give. What
they refuse has no name either, and every refusal carries the integer. -/
theorem admission_agrees {ε : Type} (F : Stored.Format ε) (hmessages : F.LawfulMessages)
    (hwords : F.LawfulWords) (hconversions : F.LawfulConversions) (raw : Int32) :
    [CodeSpace.contains raw = true,
      (⟨raw⟩ : Code).inSpace = true,
      ∃ c, CodeSpace.accept raw = .ok c,
      ∃ n, Walk.Answer.code (some ⟨raw⟩) ∈ (Walk.start.run (List.replicate n .next)).1,
      ∃ c, F.decodeCode (.int raw.toInt) = .ok c].TFAE ∧
    (CodeSpace.contains raw = true →
      CodeSpace.accept raw = .ok ⟨raw⟩ ∧ F.decodeCode (.int raw.toInt) = .ok ⟨raw⟩) ∧
    (CodeSpace.contains raw = false →
      CodeSpace.accept raw = .error ⟨⟨raw⟩⟩ ∧ (⟨raw⟩ : Code).name = .error ⟨⟨raw⟩⟩ ∧
      ((Catalog.bind .verbose).result.name ⟨raw⟩).result = .error ⟨⟨raw⟩⟩ ∧
      ∃ fault, F.decodeCode (.int raw.toInt) = .error fault ∧
        F.message fault = "unknown token code " ++ raw.toInt.repr) ∧
    ((Catalog.bind .verbose).result.name ⟨raw⟩).result = (⟨raw⟩ : Code).name ∧
    (((∃ c, CodeSpace.accept raw = .ok c) ↔ ∃ n, (⟨raw⟩ : Code).name = .ok n) ↔ raw ≠ 163) ∧
    CodeSpace.accept 163 = .ok ⟨163⟩ ∧ (⟨163⟩ : Code).name = .error ⟨⟨163⟩⟩ := by
  have hverbose : ((Catalog.bind .verbose).result.name ⟨raw⟩).result = (⟨raw⟩ : Code).name :=
    Catalog.result_name_verbose ⟨raw⟩
  refine ⟨?_, ?_, ?_, hverbose, accept_name_iff_ne_last raw, rfl, ?_⟩
  · tfae_have 1 ↔ 2 := Iff.rfl
    tfae_have 3 ↔ 1 := CodeSpace.exists_accept_iff
    tfae_have 4 ↔ 2 := (Walk.mem_run_replicate_next _ _).trans Walk.mem_toList_start
    tfae_have 5 ↔ 1 := Stored.exists_decodeCode_int_iff hwords hconversions
    tfae_finish
  · intro h
    exact ⟨CodeSpace.accept_of_inSpace h, Stored.decodeCode_of_inSpace hwords hconversions h⟩
  · intro h
    have hname := Code.name_of_not_contains h
    exact ⟨CodeSpace.accept_of_not_inSpace h, hname, hverbose.trans hname, _,
      Stored.decodeCode_of_not_inSpace hwords hconversions h,
      Stored.message_unknownCode hmessages ⟨raw⟩⟩
  · exact Code.name_eq_error_self_iff.mpr (Or.inr (by decide))

/-- The integer beside the code space is refused everywhere, with its own number. -/
theorem admission_refuses_164 :
    CodeSpace.contains 164 = false ∧ (⟨164⟩ : Code).name = .error ⟨⟨164⟩⟩ ∧
    ∃ fault, Stored.jsonFormat.decodeCode (.int 164) = .error fault ∧
      Stored.jsonFormat.message fault = "unknown token code 164" := by
  have hout : CodeSpace.contains 164 = false := by decide
  obtain ⟨-, hname, -, fault, hdecode, hmessage⟩ := (admission_agrees Stored.jsonFormat
    Stored.lawfulMessages_jsonFormat Stored.lawfulWords_jsonFormat
    Stored.lawfulConversions_jsonFormat 164).2.2.1 hout
  exact ⟨hout, hname, fault, hdecode, hmessage⟩

end ScriptLexicon
