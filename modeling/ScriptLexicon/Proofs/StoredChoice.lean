import ScriptLexicon.Proofs.JsonFormat

/-!
# Reading stored choices back

These hold of every lawful format. A choice is read from its name, or from an object with the name
as its only key and nothing as its value. Any other value is refused, and the first of four tests
that it fails gives the message.
-/

namespace ScriptLexicon.Stored

variable {ε α : Type} {F : Format ε} {name text : String} {v : Json} {a : α}

/-! ## The grammar -/

/-- The two forms in which a name is written. -/
inductive Writes (name : String) : Json → Prop
  | alone : Writes name (.str name)
  | asKey : Writes name (.obj [(name, .null)])

/-- What is said of a value that should write one of some names. Every test is made on values that
passed the tests before it. -/
inductive Refused (F : Format ε) (names : List String) : Json → String → Prop
  | kind {v : Json} (htext : ∀ s, v ≠ .str s) (hobject : ∀ fields, v ≠ .obj fields) :
    Refused F names v ("invalid type: " ++ F.describe v ++ ", expected string or map")
  | keys {fields : List (String × Json)} (hkeys : fields.length ≠ 1) :
    Refused F names (.obj fields)
      ("invalid value: " ++ F.describe (.obj fields) ++ ", expected map with a single key")
  | name {name : String} (hname : name ∉ names) :
    Refused F names (.str name) ("unknown variant `" ++ name ++ "`, " ++ F.alternatives names)
  | key {name : String} {content : Json} (hname : name ∉ names) :
    Refused F names (.obj [(name, content)])
      ("unknown variant `" ++ name ++ "`, " ++ F.alternatives names)
  | content {name : String} {content : Json} (hname : name ∈ names) (hcontent : content ≠ .null) :
    Refused F names (.obj [(name, content)])
      ("invalid type: " ++ F.describe content ++ ", expected unit")

/-- The choices `C` are stored by their keys, and read as the grammar of `names` says. -/
structure FollowsGrammar (F : Format ε) (C : Choices α) (key : α → String) (names : List String) :
    Prop where
  keys : C.all.map key = names
  accepts (v : Json) (a : α) :
    F.decodeChoice C v = .ok a ↔ v = .str (key a) ∨ v = .obj [(key a, .null)]
  refuses (v : Json) (text : String) :
    (∃ fault, F.decodeChoice C v = .error fault ∧ F.message fault = text) ↔ Refused F names v text
  restores (a : α) :
    F.encodeChoice C a = .ok (.str (key a)) ∧ F.decodeChoice C (.str (key a)) = .ok a

theorem writes_iff : Writes name v ↔ v = .str name ∨ v = .obj [(name, .null)] := by
  constructor
  · rintro (_ | _)
    · exact Or.inl rfl
    · exact Or.inr rfl
  · rintro (rfl | rfl)
    · exact .alone
    · exact .asKey

/-- A value writes one name at most. -/
theorem Writes.name_inj {other : String} (h : Writes name v) (hother : Writes other v) :
    name = other := by
  cases h with
  | alone => cases hother; rfl
  | asKey => cases hother; rfl

theorem writes_or_refused (F : Format ε) (names : List String) (v : Json) :
    (∃ name ∈ names, Writes name v) ∨ ∃ text, Refused F names v text := by
  -- The tests are split in the order in which a value is judged.
  cases v with
  | str name =>
    by_cases hname : name ∈ names
    · exact Or.inl ⟨name, hname, .alone⟩
    · exact Or.inr ⟨_, .name hname⟩
  | obj fields =>
    by_cases hkeys : fields.length = 1
    · obtain ⟨⟨name, content⟩, rfl⟩ := List.length_eq_one_iff.mp hkeys
      by_cases hname : name ∈ names
      · by_cases hcontent : content = .null
        · subst hcontent
          exact Or.inl ⟨name, hname, .asKey⟩
        · exact Or.inr ⟨_, .content hname hcontent⟩
      · exact Or.inr ⟨_, .key hname⟩
    · exact Or.inr ⟨_, .keys hkeys⟩
  | null | bool b | int n | float x | arr items =>
    exact Or.inr ⟨_, .kind (by simp) (by simp)⟩

/-! ## Any table of choices -/

section Table

variable {choices : List (String × α)}
variable (htags : F.LawfulTags) (hchoices : F.LawfulChoices)

include htags in
theorem readTag_of_writes (h : Writes name v) :
    ∃ content, F.readTag v = .ok (name, content) ∧ F.readContent content = .ok () := by
  cases h with
  | alone => exact ⟨none, htags.readTag_alone name, htags.readContent_none⟩
  | asKey => exact ⟨some .null, htags.readTag_key name .null, htags.readContent_null⟩

include htags hchoices

theorem readChoice_of_writes (hnames : (choices.map Prod.fst).Nodup) (hmem : (name, a) ∈ choices)
    (h : Writes name v) : F.readChoice choices v = .ok a := by
  obtain ⟨content, htag, hcontent⟩ := readTag_of_writes htags h
  exact hchoices.readChoice_ok hnames htag hmem hcontent

theorem readChoice_of_refused (hmessages : F.LawfulMessages)
    (h : Refused F (choices.map Prod.fst) v text) :
    ∃ fault, F.readChoice choices v = .error fault ∧ F.message fault = text := by
  cases h with
  | kind htext hobject =>
    have htag := htags.readTag_other htext hobject
    exact ⟨_, hchoices.readChoice_fault htag _, hmessages.message_wrongKind _ (by decide)⟩
  | keys hkeys =>
    have htag := htags.readTag_keys hkeys
    exact ⟨_, hchoices.readChoice_fault htag _, hmessages.message_wrongValue _ (by decide)⟩
  | @name name hname =>
    have htag := htags.readTag_alone name
    exact ⟨_, hchoices.readChoice_unknown htag hname, hmessages.message_unknownName _ _⟩
  | @key name content hname =>
    have htag := htags.readTag_key name content
    exact ⟨_, hchoices.readChoice_unknown htag hname, hmessages.message_unknownName _ _⟩
  | @content name content hname hcontent =>
    have htag := htags.readTag_key name content
    have hfault := htags.readContent_other hcontent
    have hread := hchoices.readChoice_content htag hname hfault
    exact ⟨_, hread, hmessages.message_wrongKind _ (by decide)⟩

/-- What is read writes a name, and what is not read is refused in the words for it. -/
theorem readChoice_cases (hmessages : F.LawfulMessages) (hnames : (choices.map Prod.fst).Nodup)
    (v : Json) :
    (∃ name a, (name, a) ∈ choices ∧ Writes name v ∧ F.readChoice choices v = .ok a) ∨
      ∃ fault, F.readChoice choices v = .error fault ∧
        Refused F (choices.map Prod.fst) v (F.message fault) := by
  rcases writes_or_refused F (choices.map Prod.fst) v with
    ⟨name, hname, hwrites⟩ | ⟨text, hrefused⟩
  · obtain ⟨⟨k, a⟩, hmem, rfl⟩ := List.mem_map.mp hname
    exact Or.inl ⟨k, a, hmem, hwrites, readChoice_of_writes htags hchoices hnames hmem hwrites⟩
  · obtain ⟨fault, hfault, rfl⟩ := readChoice_of_refused htags hchoices hmessages hrefused
    exact Or.inr ⟨fault, hfault, hrefused⟩

theorem readChoice_eq_ok_iff (hmessages : F.LawfulMessages)
    (hnames : (choices.map Prod.fst).Nodup) :
    F.readChoice choices v = .ok a ↔ ∃ name, (name, a) ∈ choices ∧ Writes name v := by
  constructor
  · intro h
    rcases readChoice_cases htags hchoices hmessages hnames v with
      ⟨name, b, hmem, hwrites, hread⟩ | ⟨fault, hfault, -⟩
    · rw [hread] at h
      exact ⟨name, Except.ok.inj h ▸ hmem, hwrites⟩
    · rw [hfault] at h
      cases h
  · rintro ⟨name, hmem, hwrites⟩
    exact readChoice_of_writes htags hchoices hnames hmem hwrites

theorem readChoice_refuses_iff (hmessages : F.LawfulMessages)
    (hnames : (choices.map Prod.fst).Nodup) :
    (∃ fault, F.readChoice choices v = .error fault ∧ F.message fault = text) ↔
      Refused F (choices.map Prod.fst) v text := by
  constructor
  · rintro ⟨fault, h, rfl⟩
    rcases readChoice_cases htags hchoices hmessages hnames v with
      ⟨name, a, -, -, hread⟩ | ⟨found, hfound, hrefused⟩
    · rw [hread] at h
      cases h
    · rw [hfound] at h
      exact Except.error.inj h ▸ hrefused
  · exact readChoice_of_refused htags hchoices hmessages

end Table

/-! ## The two types of choices -/

theorem mem_map_named {all : List α} {word : α → String} (hall : ∀ a, a ∈ all) :
    (name, a) ∈ all.map (fun a => (word a, a)) ↔ name = word a := by
  simp only [List.mem_map, hall, true_and, Prod.mk.injEq]
  constructor
  · rintro ⟨b, rfl, rfl⟩
    rfl
  · rintro rfl
    exact ⟨a, rfl, rfl⟩

/-- Only the renaming of the identifiers tells one type of choices from another. -/
theorem followsGrammar_of_renamed (hmessages : F.LawfulMessages) (htags : F.LawfulTags)
    (hchoices : F.LawfulChoices) {C : Choices α} {key : α → String} {names : List String}
    (hkey : ∀ a, F.rename C.style (C.identifier a) = key a) (hall : C.all.map key = names)
    (hnames : names.Nodup) : FollowsGrammar F C key names := by
  have hdecode : F.decodeChoice C = F.readChoice (C.all.map fun a => (key a, a)) := by
    unfold Format.decodeChoice
    simp only [hkey]
  have htable : (C.all.map fun a => (key a, a)).map Prod.fst = names := by
    rw [List.map_map, ← hall]
    rfl
  have hnodup : ((C.all.map fun a => (key a, a)).map Prod.fst).Nodup := htable ▸ hnames
  have haccepts (v : Json) (a : α) : F.decodeChoice C v = .ok a ↔ Writes (key a) v := by
    rw [hdecode, readChoice_eq_ok_iff htags hchoices hmessages hnodup]
    simp only [mem_map_named C.mem_all, exists_eq_left]
  refine ⟨hall, fun v a => (haccepts v a).trans writes_iff, ?_, ?_⟩
  · intro v text
    rw [hdecode, readChoice_refuses_iff htags hchoices hmessages hnodup, htable]
  · intro a
    rw [Format.encodeChoice, hkey]
    exact ⟨hchoices.writeChoice_eq (key a), (haccepts _ a).mpr .alone⟩

theorem toLower_label (n : Naming) : n.label.toLower = n.key := by
  have hmap : n.label.toLower = n.label.map Char.toLower := rfl
  rw [hmap, ← String.toList_inj, String.toList_map]
  cases n <;> decide

theorem key_ne_name (n : Naming) (f : CommentForm) : n.key ≠ f.name := by
  cases n <;> cases f <;> decide

/-- **Both types of choices follow the grammar of their names.** Namings are stored in lowercase and
forms of comments as they are named, so no value stands for choices of both. -/
theorem choices_follow_grammar (F : Format ε) (hmessages : F.LawfulMessages)
    (htags : F.LawfulTags) (hchoices : F.LawfulChoices) :
    FollowsGrammar F namings Naming.key ["compact", "verbose"] ∧
    FollowsGrammar F commentForms CommentForm.name ["Line", "BlockComment", "JsDoc", "Html"] ∧
    ∀ v n f, F.decodeChoice namings v = .ok n → F.decodeChoice commentForms v ≠ .ok f := by
  have hlower (n : Naming) : F.rename .lowercase n.label = n.key :=
    (hchoices.rename_lowercase n.label).trans (toLower_label n)
  have hnamings : FollowsGrammar F namings Naming.key ["compact", "verbose"] :=
    followsGrammar_of_renamed hmessages htags hchoices hlower rfl (by decide)
  have hforms :
      FollowsGrammar F commentForms CommentForm.name ["Line", "BlockComment", "JsDoc", "Html"] :=
    followsGrammar_of_renamed hmessages htags hchoices
      (fun f => hchoices.rename_none f.name) rfl (by decide)
  refine ⟨hnamings, hforms, ?_⟩
  intro v n f hn hf
  have hnaming := writes_iff.mpr ((hnamings.accepts v n).mp hn)
  have hform := writes_iff.mpr ((hforms.accepts v f).mp hf)
  exact key_ne_name n f (hnaming.name_inj hform)

/-- A name has its own type and its own case, and it is judged before what it holds. -/
theorem name_judged_before_content :
    jsonFormat.decodeChoice namings (.obj [("verbose", .null)]) = .ok .verbose ∧
    (∀ f, jsonFormat.decodeChoice commentForms (.obj [("verbose", .null)]) ≠ .ok f) ∧
    (∃ fault, jsonFormat.decodeChoice namings (.obj [("Verbose", .int 1)]) = .error fault ∧
      jsonFormat.message fault = "unknown variant `Verbose`, expected `compact` or `verbose`") ∧
    ∃ fault, jsonFormat.decodeChoice namings (.obj [("verbose", .int 1)]) = .error fault ∧
      jsonFormat.message fault = "invalid type: integer `1`, expected unit" := by
  obtain ⟨hnamings, -, hapart⟩ := choices_follow_grammar jsonFormat lawfulMessages_jsonFormat
    lawfulTags_jsonFormat lawfulChoices_jsonFormat
  have hverbose : jsonFormat.decodeChoice namings (.obj [("verbose", .null)]) = .ok .verbose :=
    (hnamings.accepts _ .verbose).mpr (Or.inr rfl)
  exact ⟨hverbose, fun f => hapart _ _ f hverbose,
    (hnamings.refuses _ _).mpr (.key (by decide)),
    (hnamings.refuses _ _).mpr (.content (by decide) (by simp))⟩

end ScriptLexicon.Stored
