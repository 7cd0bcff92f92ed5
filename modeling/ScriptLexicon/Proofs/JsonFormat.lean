import ScriptLexicon.Proofs.Association
import ScriptLexicon.Stored.JsonFormat

/-!
# The laws of the JSON format

`jsonFormat` has every law of a format, so what holds of all lawful formats holds of it.
-/

namespace ScriptLexicon.Stored

open Association

theorem lawfulMessages_jsonFormat : jsonFormat.LawfulMessages where
  message_own _ := rfl
  message_wrongKind _ {_} _ := rfl
  message_wrongValue _ {_} _ := rfl
  message_unknownName _ _ := rfl
  describe_int _ := rfl

theorem lawfulWords_jsonFormat : jsonFormat.LawfulWords where
  readWord_fits w := by
    have hword : Code.ofInt? w.toInt = some ⟨w⟩ := Code.ofInt?_value ⟨w⟩
    change readWord (.int w.toInt) = .ok w
    rw [readWord, hword]
  readWord_large h := by
    change readWord (.int _) = .error (.wrongValue _ "i32")
    rw [readWord, Code.ofInt?_eq_none_iff.mpr h]
    rfl
  readWord_other {v} h := by
    cases v with
    | int n => exact absurd rfl (h n)
    | null | bool b | float x | str s | arr items | obj fields => rfl
  writeWord_eq _ := rfl

theorem lawfulLists_jsonFormat : jsonFormat.LawfulLists where
  readList_nil _ := rfl
  readList_cons_ok {_ read v a} h items := by
    change readItems read (v :: items) = (readItems read items).map (a :: ·)
    rw [readItems, h]
    rfl
  readList_cons_error {_ read v fault} h items := by
    change readItems read (v :: items) = .error fault
    rw [readItems, h]
    rfl
  readList_other {_} read {v} h := by
    cases v with
    | arr items => exact absurd rfl (h items)
    | null | bool b | int n | float x | str s | obj fields => rfl
  writeList_nil _ := rfl
  writeList_cons {_ write a as v items} h hrest := by
    change writeList write as = .ok (.arr items) at hrest
    change writeList write (a :: as) = .ok (.arr (v :: items))
    rw [writeList] at hrest ⊢
    rw [List.mapM_cons, h]
    cases hitems : as.mapM write with
    | error fault => simp [hitems, Except.map] at hrest
    | ok written =>
      rw [hitems] at hrest
      obtain rfl := Json.arr.inj (Except.ok.inj hrest)
      rfl

theorem lawfulConversions_jsonFormat : jsonFormat.LawfulConversions where
  readThrough_ok {_ _ _ read convert v b a} hread hconvert words := by
    change readThrough read convert words v = .ok a
    simp [readThrough, hread, hconvert, bind, Except.bind, Except.mapError]
  readThrough_refused {_ _ _ read convert v b refusal} hread hconvert words := by
    change readThrough read convert words v = .error (.own (words refusal))
    simp [readThrough, hread, hconvert, bind, Except.bind, Except.mapError]
  readThrough_fault {_ _ _ read v fault} hread convert words := by
    change readThrough read convert words v = .error fault
    simp [readThrough, hread, bind, Except.bind]
  writeThrough_eq _ _ _ := rfl

theorem lawfulTags_jsonFormat : jsonFormat.LawfulTags where
  readTag_alone _ := rfl
  readTag_key _ _ := rfl
  readTag_keys {fields} h := by
    match fields, h with
    | [], _ => rfl
    | [_], h => exact absurd rfl h
    | _ :: _ :: _, _ => rfl
  readTag_other {v} htext hobject := by
    cases v with
    | str s => exact absurd rfl (htext s)
    | obj fields => exact absurd rfl (hobject fields)
    | null | bool b | int n | float x | arr items => rfl
  readContent_none := rfl
  readContent_null := rfl
  readContent_other {content} h := by
    cases content with
    | null => exact absurd rfl h
    | bool b | int n | float x | str s | arr items | obj fields => rfl

theorem lawfulChoices_jsonFormat : jsonFormat.LawfulChoices where
  rename_none _ := rfl
  rename_lowercase _ := rfl
  readChoice_fault {_ v fault} htag choices := by
    change readTag v = .error fault at htag
    change readChoice choices v = .error fault
    rw [readChoice, htag]
    rfl
  readChoice_unknown {_ choices v name content} htag hname := by
    change readTag v = .ok (name, content) at htag
    change readChoice choices v = .error (.unknownName name (choices.map Prod.fst))
    simp only [readChoice, htag, bind, Except.bind, lookup_eq_none_iff.mpr hname]
  readChoice_content {_ choices v name content fault} htag hname hcontent := by
    obtain ⟨⟨k, b⟩, hmem, rfl⟩ := List.mem_map.mp hname
    obtain ⟨a, ha⟩ := exists_lookup_of_mem hmem
    change readTag v = .ok (k, content) at htag
    change readContent content = .error fault at hcontent
    change readChoice choices v = .error fault
    simp only [readChoice, htag, bind, Except.bind, ha, hcontent, Except.map]
  readChoice_ok {_ choices v name content a} hnames htag hname hcontent := by
    have ha := (lookup_eq_some_iff (singleValued_of_nodup hnames)).mpr hname
    change readTag v = .ok (name, content) at htag
    change readContent content = .ok () at hcontent
    change readChoice choices v = .ok a
    simp only [readChoice, htag, bind, Except.bind, ha, hcontent, Except.map]
  writeChoice_eq _ := rfl

end ScriptLexicon.Stored
