import Mathlib.Data.Set.List
import ScriptLexicon.Proofs.JsonFormat

/-!
# Reading stored codes back

These hold of every lawful format. One value is judged by its kind, then by the 32 bits of a word,
then by the code space; an integer is compared as it is, so none is cut down to a code. Any code can
be stored, and only codes of the code space are read back. A list is read item by item, and its
first bad item gives the fault.
-/

namespace ScriptLexicon.Stored

variable {ε : Type} {F : Format ε} {v : Json} {n : Int} {c : Code} {cs : List Code} {fault : ε}

/-! ## One code -/

section Code

variable (hwords : F.LawfulWords) (hconversions : F.LawfulConversions)

include hwords hconversions

theorem encodeCode_eq (c : Code) : F.encodeCode c = .ok (.int c.value) := by
  rw [Format.encodeCode, hconversions.writeThrough_eq]
  exact hwords.writeWord_eq c.raw

theorem decodeCode_of_inSpace (h : c.inSpace = true) : F.decodeCode (.int c.value) = .ok c :=
  hconversions.readThrough_ok (hwords.readWord_fits c.raw) (CodeSpace.accept_of_inSpace h) _

theorem decodeCode_of_not_inSpace (h : c.inSpace = false) :
    F.decodeCode (.int c.value) = .error (F.own (UnknownCode.message ⟨c⟩)) :=
  hconversions.readThrough_refused (hwords.readWord_fits c.raw)
    (CodeSpace.accept_of_not_inSpace h) _

/-- An integer of 32 bits is never too large to be a code, so acceptance alone judges it. -/
theorem decodeCode_value (c : Code) : F.decodeCode (.int c.value) =
    (CodeSpace.accept c.raw).mapError fun e => F.own e.message := by
  cases hc : c.inSpace with
  | true => rw [decodeCode_of_inSpace hwords hconversions hc, CodeSpace.accept_of_inSpace hc]; rfl
  | false =>
    rw [decodeCode_of_not_inSpace hwords hconversions hc, CodeSpace.accept_of_not_inSpace hc]; rfl

theorem decodeCode_of_large (h : n < -2147483648 ∨ 2147483647 < n) :
    F.decodeCode (.int n) = .error (F.wrongValue (F.describe (.int n)) "i32") :=
  hconversions.readThrough_fault (hwords.readWord_large h) _ _

theorem decodeCode_of_not_integer (h : ∀ n, v ≠ .int n) :
    F.decodeCode v = .error (F.wrongKind (F.describe v) "i32") :=
  hconversions.readThrough_fault (hwords.readWord_other h) _ _

/-- Only integers are accepted, so there is one value for each code. -/
theorem decodeCode_eq_ok_iff : F.decodeCode v = .ok c ↔ v = .int c.value ∧ c.inSpace = true := by
  constructor
  · intro h
    by_cases hint : ∃ n, v = .int n
    · obtain ⟨n, rfl⟩ := hint
      by_cases hfits : -2147483648 ≤ n ∧ n ≤ 2147483647
      · obtain ⟨d, rfl⟩ := Code.exists_value_eq_iff.mpr hfits
        cases hd : d.inSpace with
        | true =>
          rw [decodeCode_of_inSpace hwords hconversions hd, Except.ok.injEq] at h
          exact h ▸ ⟨rfl, hd⟩
        | false =>
          rw [decodeCode_of_not_inSpace hwords hconversions hd] at h
          cases h
      · rw [decodeCode_of_large hwords hconversions (by omega)] at h
        cases h
    · rw [decodeCode_of_not_integer hwords hconversions (not_exists.mp hint)] at h
      cases h
  · rintro ⟨rfl, hc⟩
    exact decodeCode_of_inSpace hwords hconversions hc

/-- Every integer of the code space is a code, since the code space fits 32 bits. -/
theorem exists_decodeCode_iff :
    (∃ c, F.decodeCode v = .ok c) ↔ ∃ n, v = .int n ∧ -1 ≤ n ∧ n ≤ 163 := by
  simp only [decodeCode_eq_ok_iff hwords hconversions, Code.inSpace_iff]
  constructor
  · rintro ⟨c, rfl, hc⟩
    exact ⟨c.value, rfl, hc⟩
  · rintro ⟨n, rfl, hn⟩
    obtain ⟨c, rfl⟩ := Code.exists_value_eq_iff.mpr (by omega : -2147483648 ≤ n ∧ n ≤ 2147483647)
    exact ⟨c, rfl, hn⟩

end Code

/-! ## Messages -/

section Messages

variable (hmessages : F.LawfulMessages)

include hmessages

theorem message_unknownCode (c : Code) :
    F.message (F.own (UnknownCode.message ⟨c⟩)) = "unknown token code " ++ c.value.repr :=
  hmessages.message_own _

theorem message_wrongValue_int (n : Int) :
    F.message (F.wrongValue (F.describe (.int n)) "i32") =
      "invalid value: integer `" ++ n.repr ++ "`, expected i32" := by
  have hopen : "invalid value: " ++ "integer `" = "invalid value: integer `" := by decide
  have hclose : "`" ++ (", expected " ++ "i32") = "`, expected i32" := by decide
  rw [hmessages.message_wrongValue _ (by decide), hmessages.describe_int, ← hopen, ← hclose]
  simp only [String.append_assoc]

end Messages

/-- **The kind and the range of a value decide what is read.** Only an integer of the code space is
a code, and it is the code of that value. An integer of 32 bits outside the code space is an unknown
code, a larger one is refused by its own digits, and no other kind of value serves. -/
theorem decodeCode_by_kind_and_range (F : Format ε) (hmessages : F.LawfulMessages)
    (hwords : F.LawfulWords) (hconversions : F.LawfulConversions) :
    (∀ v, (∃ c, F.decodeCode v = .ok c) ↔ ∃ n, v = .int n ∧ -1 ≤ n ∧ n ≤ 163) ∧
    (∀ n c, F.decodeCode (.int n) = .ok c → c.value = n) ∧
    (∀ n, -2147483648 ≤ n ∧ n ≤ 2147483647 → n < -1 ∨ 163 < n →
      ∃ c, c.value = n ∧ F.decodeCode (.int n) = .error (F.own (UnknownCode.message ⟨c⟩)) ∧
        F.message (F.own (UnknownCode.message ⟨c⟩)) = "unknown token code " ++ n.repr) ∧
    (∀ n, n < -2147483648 ∨ 2147483647 < n →
      F.decodeCode (.int n) = .error (F.wrongValue (F.describe (.int n)) "i32") ∧
        F.message (F.wrongValue (F.describe (.int n)) "i32") =
          "invalid value: integer `" ++ n.repr ++ "`, expected i32") ∧
    ∀ v, (∀ n, v ≠ .int n) →
      F.decodeCode v = .error (F.wrongKind (F.describe v) "i32") ∧
        F.message (F.wrongKind (F.describe v) "i32") =
          "invalid type: " ++ F.describe v ++ ", expected i32" := by
  refine ⟨fun v => exists_decodeCode_iff hwords hconversions, ?_, ?_, ?_, ?_⟩
  · intro n c h
    exact (Json.int.inj ((decodeCode_eq_ok_iff hwords hconversions).mp h).1).symm
  · intro n hfits hout
    obtain ⟨c, rfl⟩ := Code.exists_value_eq_iff.mpr hfits
    have hc : c.inSpace = false := Code.inSpace_eq_false_iff.mpr hout
    exact ⟨c, rfl, decodeCode_of_not_inSpace hwords hconversions hc,
      message_unknownCode hmessages c⟩
  · intro n h
    exact ⟨decodeCode_of_large hwords hconversions h, message_wrongValue_int hmessages n⟩
  · intro v h
    exact ⟨decodeCode_of_not_integer hwords hconversions h,
      hmessages.message_wrongKind _ (by decide)⟩

/-- Integers that would be codes if only their last 32 bits were kept, and a whole double. -/
theorem large_integers_and_doubles_refused :
    jsonFormat.decodeCode (.int 4294967317) =
        .error (.wrongValue "integer `4294967317`" "i32") ∧
      jsonFormat.decodeCode (.int (-4294967297)) =
        .error (.wrongValue "integer `-4294967297`" "i32") ∧
      jsonFormat.decodeCode (.int 164) = .error (.own "unknown token code 164") ∧
      jsonFormat.decodeCode (.float 21.0) =
        .error (.wrongKind (jsonFormat.describe (.float 21.0)) "i32") ∧
      jsonFormat.decodeCode (.int 21) = .ok ⟨21⟩ ∧ (⟨21⟩ : Code).value = 21 := by
  obtain ⟨-, hvalue, hunknown, hlarge, hkind⟩ := decodeCode_by_kind_and_range jsonFormat
    lawfulMessages_jsonFormat lawfulWords_jsonFormat lawfulConversions_jsonFormat
  obtain ⟨c, hc, hdecode, -⟩ := hunknown 164 (by decide) (by decide)
  have hread : jsonFormat.decodeCode (.int 21) = .ok ⟨21⟩ := rfl
  obtain rfl : c = ⟨164⟩ := Code.value_inj.mp hc
  exact ⟨(hlarge _ (by decide)).1, (hlarge _ (by decide)).1, hdecode, (hkind _ (by simp)).1, hread,
    hvalue 21 _ hread⟩

/-! ## Lists of any items -/

section List

variable {α : Type} {read : Json → Except ε α} {as : List α} {items more : List Json}
variable (hlists : F.LawfulLists)

include hlists

theorem readList_cons_eq_ok_iff :
    F.readList read (.arr (v :: items)) = .ok as ↔
      ∃ a, read v = .ok a ∧ ∃ rest, F.readList read (.arr items) = .ok rest ∧ a :: rest = as := by
  cases hv : read v with
  | error fault => simp [hlists.readList_cons_error hv]
  | ok a =>
    rw [hlists.readList_cons_ok hv]
    cases F.readList read (.arr items) <;> simp [Except.map]

theorem readList_cons_eq_error_iff :
    F.readList read (.arr (v :: items)) = .error fault ↔
      read v = .error fault ∨
        ∃ a, read v = .ok a ∧ F.readList read (.arr items) = .error fault := by
  cases hv : read v with
  | error other => simp [hlists.readList_cons_error hv]
  | ok a =>
    rw [hlists.readList_cons_ok hv]
    cases F.readList read (.arr items) <;> simp [Except.map]

/-- The items before the first bad one are all read, and those after it do not matter. -/
theorem readList_eq_error_iff :
    F.readList read (.arr items) = .error fault ↔
      ∃ before v after, items = before ++ v :: after ∧
        (∀ u ∈ before, ∃ a, read u = .ok a) ∧ read v = .error fault := by
  induction items with
  | nil => simp [hlists.readList_nil]
  | cons u items ih =>
    rw [readList_cons_eq_error_iff hlists, ih]
    constructor
    · rintro (hu | ⟨a, hu, before, v, after, rfl, hbefore, hv⟩)
      · exact ⟨[], u, items, rfl, by simp, hu⟩
      · exact ⟨u :: before, v, after, rfl, List.forall_mem_cons.mpr ⟨⟨a, hu⟩, hbefore⟩, hv⟩
    · rintro ⟨before, v, after, hitems, hbefore, hv⟩
      cases before with
      | nil =>
        obtain ⟨rfl, rfl⟩ := List.cons.inj hitems
        exact Or.inl hv
      | cons w before =>
        obtain ⟨rfl, rfl⟩ := List.cons.inj hitems
        obtain ⟨⟨a, hw⟩, hrest⟩ := List.forall_mem_cons.mp hbefore
        exact Or.inr ⟨a, hw, before, v, after, rfl, hrest, hv⟩

theorem readList_append_eq_ok_iff :
    F.readList read (.arr (items ++ more)) = .ok as ↔
      ∃ first, F.readList read (.arr items) = .ok first ∧
        ∃ second, F.readList read (.arr more) = .ok second ∧ first ++ second = as := by
  induction items generalizing as with
  | nil => simp [hlists.readList_nil]
  | cons v items ih =>
    simp only [List.cons_append, readList_cons_eq_ok_iff hlists, ih]
    constructor
    · rintro ⟨a, hv, rest, ⟨first, hitems, second, hmore, rfl⟩, rfl⟩
      exact ⟨a :: first, ⟨a, hv, first, hitems, rfl⟩, second, hmore, rfl⟩
    · rintro ⟨_, ⟨a, hv, first, hitems, rfl⟩, second, hmore, rfl⟩
      exact ⟨a, hv, first ++ second, ⟨first, hitems, second, hmore, rfl⟩, rfl⟩

theorem readList_append_of_error (h : F.readList read (.arr items) = .error fault) :
    F.readList read (.arr (items ++ more)) = .error fault := by
  obtain ⟨before, v, after, rfl, hbefore, hv⟩ := (readList_eq_error_iff hlists).mp h
  exact (readList_eq_error_iff hlists).mpr ⟨before, v, after ++ more, by simp, hbefore, hv⟩

end List

/-! ## Lists of codes -/

section Codes

variable {items : List Json}
variable (hwords : F.LawfulWords) (hconversions : F.LawfulConversions) (hlists : F.LawfulLists)

include hwords hconversions hlists

theorem encodeCodes_eq (cs : List Code) :
    F.encodeCodes cs = .ok (.arr (cs.map fun c => .int c.value)) := by
  induction cs with
  | nil => exact hlists.writeList_nil F.encodeCode
  | cons c cs ih => exact hlists.writeList_cons (encodeCode_eq hwords hconversions c) ih

theorem decodeCodes_arr_eq_ok_iff :
    F.decodeCodes (.arr items) = .ok cs ↔
      items = cs.map (fun c => .int c.value) ∧ ∀ c ∈ cs, c.inSpace = true := by
  unfold Format.decodeCodes
  induction items generalizing cs with
  | nil =>
    rw [hlists.readList_nil]
    cases cs with
    | nil => simp
    | cons c cs => simp
  | cons v items ih =>
    rw [readList_cons_eq_ok_iff hlists]
    simp only [ih, decodeCode_eq_ok_iff hwords hconversions]
    constructor
    · rintro ⟨c, ⟨rfl, hc⟩, rest, ⟨rfl, hrest⟩, rfl⟩
      exact ⟨rfl, List.forall_mem_cons.mpr ⟨hc, hrest⟩⟩
    · rintro ⟨hitems, hspace⟩
      cases cs with
      | nil => simp at hitems
      | cons c rest =>
        obtain ⟨hc, hrest⟩ := List.forall_mem_cons.mp hspace
        obtain ⟨rfl, rfl⟩ := List.cons.inj hitems
        exact ⟨c, ⟨rfl, hc⟩, rest, ⟨rfl, hrest⟩, rfl⟩

theorem decodeCodes_eq_ok_iff :
    F.decodeCodes v = .ok cs ↔
      v = .arr (cs.map fun c => .int c.value) ∧ ∀ c ∈ cs, c.inSpace = true := by
  by_cases harray : ∃ items, v = .arr items
  · obtain ⟨items, rfl⟩ := harray
    rw [Json.arr.injEq]
    exact decodeCodes_arr_eq_ok_iff hwords hconversions hlists
  · have hother := hlists.readList_other F.decodeCode (not_exists.mp harray)
    rw [Format.decodeCodes, hother]
    simp only [reduceCtorEq, false_iff]
    rintro ⟨rfl, -⟩
    exact harray ⟨_, rfl⟩

theorem decodeCodes_of_not_inSpace {before after : List Code}
    (hbefore : ∀ d ∈ before, d.inSpace = true) (hc : c.inSpace = false) :
    F.decodeCodes (.arr ((before ++ c :: after).map fun c => .int c.value)) =
      .error (F.own (UnknownCode.message ⟨c⟩)) := by
  rw [List.map_append, List.map_cons]
  refine (readList_eq_error_iff hlists).mpr
    ⟨_, _, _, rfl, ?_, decodeCode_of_not_inSpace hwords hconversions hc⟩
  intro u hu
  obtain ⟨d, hd, rfl⟩ := List.mem_map.mp hu
  exact ⟨d, decodeCode_of_inSpace hwords hconversions (hbefore d hd)⟩

/-- A list comes back whole, or its first code outside the code space is named. -/
theorem decodeCodes_values (cs : List Code) :
    F.decodeCodes (.arr (cs.map fun c => .int c.value)) =
      match cs.find? fun c => c.value < -1 ∨ 163 < c.value with
      | none => .ok cs
      | some c => .error (F.own (UnknownCode.message ⟨c⟩)) := by
  have houtside : (fun c : Code => decide (c.value < -1 ∨ 163 < c.value)) = (!·.inSpace) := by
    funext c
    simp only [← Code.inSpace_eq_false_iff]
    cases c.inSpace <;> rfl
  rw [houtside]
  cases hfind : cs.find? (!·.inSpace) with
  | none =>
    have hall : ∀ c ∈ cs, c.inSpace = true := by simpa using hfind
    exact (decodeCodes_eq_ok_iff hwords hconversions hlists).mpr ⟨rfl, hall⟩
  | some c =>
    obtain ⟨hc, before, after, rfl, hbefore⟩ := List.find?_eq_some_iff_append.mp hfind
    exact decodeCodes_of_not_inSpace hwords hconversions hlists (by simpa using hbefore)
      (by simpa using hc)

theorem exists_decodeCodes_iff :
    (∃ cs, F.decodeCodes v = .ok cs) ↔
      ∃ ns : List Int, v = .arr (ns.map .int) ∧ ∀ n ∈ ns, -1 ≤ n ∧ n ≤ 163 := by
  simp only [decodeCodes_eq_ok_iff hwords hconversions hlists]
  constructor
  · rintro ⟨cs, rfl, hspace⟩
    refine ⟨cs.map Code.value, by rw [List.map_map]; rfl, ?_⟩
    intro n hn
    obtain ⟨c, hc, rfl⟩ := List.mem_map.mp hn
    exact Code.inSpace_iff.mp (hspace c hc)
  · rintro ⟨ns, rfl, hns⟩
    have hcodes : ns ∈ Set.range (List.map Code.value) := by
      rw [Set.range_list_map]
      intro n hn
      have hrange := hns n hn
      exact Code.exists_value_eq_iff.mpr (by omega)
    obtain ⟨cs, rfl⟩ := hcodes
    refine ⟨cs, by rw [List.map_map]; rfl, ?_⟩
    intro c hc
    exact Code.inSpace_iff.mpr (hns c.value (List.mem_map_of_mem hc))

end Codes

/-- **Stored codes are read back as far as the code space goes.** A list comes back whole when all
its codes lie there, and otherwise its first code outside is refused by its number. Whatever is
read is stored again as it was. -/
theorem stored_codes_round_trip (F : Format ε) (hmessages : F.LawfulMessages)
    (hwords : F.LawfulWords) (hconversions : F.LawfulConversions) (hlists : F.LawfulLists) :
    (∀ c, F.encodeCode c = .ok (.int c.value) ∧ F.decodeCode (.int c.value) =
      (CodeSpace.accept c.raw).mapError fun e => F.own e.message) ∧
    (∀ cs, F.encodeCodes cs = .ok (.arr (cs.map fun c => .int c.value)) ∧
      F.decodeCodes (.arr (cs.map fun c => .int c.value)) =
        match cs.find? fun c => c.value < -1 ∨ 163 < c.value with
        | none => .ok cs
        | some c => .error (F.own (UnknownCode.message ⟨c⟩))) ∧
    (∀ c, F.message (F.own (UnknownCode.message ⟨c⟩)) = "unknown token code " ++ c.value.repr) ∧
    (∀ v c, F.decodeCode v = .ok c → F.encodeCode c = .ok v) ∧
    ∀ v cs, F.decodeCodes v = .ok cs → F.encodeCodes cs = .ok v := by
  refine ⟨?_, ?_, message_unknownCode hmessages, ?_, ?_⟩
  · intro c
    exact ⟨encodeCode_eq hwords hconversions c, decodeCode_value hwords hconversions c⟩
  · intro cs
    exact ⟨encodeCodes_eq hwords hconversions hlists cs,
      decodeCodes_values hwords hconversions hlists cs⟩
  · intro v c h
    rw [((decodeCode_eq_ok_iff hwords hconversions).mp h).1]
    exact encodeCode_eq hwords hconversions c
  · intro v cs h
    rw [((decodeCodes_eq_ok_iff hwords hconversions hlists).mp h).1]
    exact encodeCodes_eq hwords hconversions hlists cs

/-- A stored list is refused by its first code outside the code space, which is not its last. -/
theorem round_trip_refuses_first_outside :
    jsonFormat.encodeCodes [⟨21⟩, ⟨163⟩, ⟨164⟩, ⟨-2⟩] =
        .ok (.arr [.int 21, .int 163, .int 164, .int (-2)]) ∧
      jsonFormat.decodeCodes (.arr [.int 21, .int 163, .int 164, .int (-2)]) =
        .error (.own "unknown token code 164") ∧
      jsonFormat.decodeCode (.int 163) = .ok ⟨163⟩ ∧
      jsonFormat.encodeCode ⟨163⟩ = .ok (.int 163) ∧
      jsonFormat.decodeCodes (.arr [.int (-1), .int 163]) = .ok [⟨-1⟩, ⟨163⟩] ∧
      jsonFormat.encodeCodes [⟨-1⟩, ⟨163⟩] = .ok (.arr [.int (-1), .int 163]) := by
  obtain ⟨-, hlists, -, hback, hbacks⟩ := stored_codes_round_trip jsonFormat
    lawfulMessages_jsonFormat lawfulWords_jsonFormat lawfulConversions_jsonFormat
    lawfulLists_jsonFormat
  have hone : jsonFormat.decodeCode (.int 163) = .ok ⟨163⟩ := rfl
  have hmany : jsonFormat.decodeCodes (.arr [.int (-1), .int 163]) = .ok [⟨-1⟩, ⟨163⟩] := rfl
  obtain ⟨hwritten, hread⟩ := hlists [⟨21⟩, ⟨163⟩, ⟨164⟩, ⟨-2⟩]
  exact ⟨hwritten, hread, hone, hback _ _ hone, hmany, hbacks _ _ hmany⟩

/-- **A list of codes is read item by item, up to its first fault.** It is accepted when it is an
array of integers of the code space. A fault is that of the first bad item, whatever follows, and
so two lists joined are read like one after the other. -/
theorem decodeCodes_item_by_item (F : Format ε) (hmessages : F.LawfulMessages)
    (hwords : F.LawfulWords) (hconversions : F.LawfulConversions) (hlists : F.LawfulLists) :
    (∀ v, (∃ cs, F.decodeCodes v = .ok cs) ↔
      ∃ ns : List Int, v = .arr (ns.map .int) ∧ ∀ n ∈ ns, -1 ≤ n ∧ n ≤ 163) ∧
    (∀ v cs, F.decodeCodes v = .ok cs → v = .arr (cs.map fun c => .int c.value)) ∧
    (∀ items fault, F.decodeCodes (.arr items) = .error fault ↔
      ∃ before item after, items = before ++ item :: after ∧
        (∀ u ∈ before, ∃ c, F.decodeCode u = .ok c) ∧ F.decodeCode item = .error fault) ∧
    (∀ v, (∀ items, v ≠ .arr items) →
      F.decodeCodes v = .error (F.wrongKind (F.describe v) "a sequence") ∧
        F.message (F.wrongKind (F.describe v) "a sequence") =
          "invalid type: " ++ F.describe v ++ ", expected a sequence") ∧
    (∀ items more cs, F.decodeCodes (.arr (items ++ more)) = .ok cs ↔
      ∃ first, F.decodeCodes (.arr items) = .ok first ∧
        ∃ second, F.decodeCodes (.arr more) = .ok second ∧ first ++ second = cs) ∧
    ∀ items more fault, F.decodeCodes (.arr items) = .error fault →
      F.decodeCodes (.arr (items ++ more)) = .error fault := by
  refine ⟨fun v => exists_decodeCodes_iff hwords hconversions hlists, ?_,
    fun items fault => readList_eq_error_iff hlists, ?_, ?_, ?_⟩
  · intro v cs h
    exact ((decodeCodes_eq_ok_iff hwords hconversions hlists).mp h).1
  · intro v h
    exact ⟨hlists.readList_other F.decodeCode h, hmessages.message_wrongKind _ (by decide)⟩
  · intro items more cs
    exact readList_append_eq_ok_iff hlists
  · intro items more fault h
    exact readList_append_of_error hlists h

/-- An integer that needs more than 32 bits is refused as it is, and what follows it is not read. -/
theorem list_stops_at_large_integer :
    jsonFormat.decodeCodes (.arr [.int 21, .int 5000000000, .int 164]) =
        .error (.wrongValue "integer `5000000000`" "i32") ∧
      jsonFormat.decodeCodes (.arr ([.int 21, .int 5000000000, .int 164] ++ [.str "ADD"])) =
        .error (.wrongValue "integer `5000000000`" "i32") ∧
      jsonFormat.decodeCodes (.arr [.int (-1), .int 163]) = .ok [⟨-1⟩, ⟨163⟩] ∧
      Json.arr [.int (-1), .int 163] = .arr ([⟨-1⟩, ⟨163⟩].map fun c : Code => .int c.value) ∧
      jsonFormat.decodeCodes .null = .error (.wrongKind "null" "a sequence") := by
  obtain ⟨-, hvalue, hfault, hother, -, hmore⟩ := decodeCodes_item_by_item jsonFormat
    lawfulMessages_jsonFormat lawfulWords_jsonFormat lawfulConversions_jsonFormat
    lawfulLists_jsonFormat
  have hbefore : ∀ u ∈ [Json.int 21], ∃ c, jsonFormat.decodeCode u = .ok c := by
    intro u hu
    rw [List.mem_singleton.mp hu]
    exact ⟨⟨21⟩, rfl⟩
  have hstop : jsonFormat.decodeCodes (.arr [.int 21, .int 5000000000, .int 164]) =
      .error (.wrongValue "integer `5000000000`" "i32") :=
    (hfault _ _).mpr ⟨[.int 21], .int 5000000000, [.int 164], rfl, hbefore, rfl⟩
  have hread : jsonFormat.decodeCodes (.arr [.int (-1), .int 163]) = .ok [⟨-1⟩, ⟨163⟩] := rfl
  exact ⟨hstop, hmore _ [.str "ADD"] _ hstop, hread, hvalue _ _ hread, (hother _ (by simp)).1⟩

end ScriptLexicon.Stored
