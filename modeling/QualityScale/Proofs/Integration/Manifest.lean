import QualityScale.Integration.Manifest

/-!
# What a manifest gives

An integration takes three fields from its manifest, and it takes all of them or none.  The manifest
is an object, and then the fields stand under their keys, or it is an array of three items.

* `Places v d k q`: the domain, the kind and the quality scale of `v` stand at `d`, `k` and `q`.
* `GivesText`, `GivesKind`: what stands at a place is a field.  `LacksText`, `LacksKind`: it is
  none, with what is said about it.  `Gives` and `Lacks` are about the three places together.
* `Describes v fields`: the value has all its fields.  `Faulty v error`: it has not, and the first
  fault is `error`.
* `ofValue_eq_ok_iff`, `ofValue_eq_error_iff`: so the reader answers.
* `load_all_or_nothing`: what an integration is after it was loaded.  `Loaded` has the three cases:
  there is no JSON text, its value is faulty, or the value describes the integration.
-/

namespace QualityScale

open Json (Value)

/-! ### Names of kinds -/

/-- **The kind that a name stands for.**  A name that no kind has stands for `other`. -/
inductive IntegrationKind.Named : String → IntegrationKind → Prop
  | known (k : IntegrationKind) : Named k.name k
  | unknown {s : String} (h : ∀ k : IntegrationKind, k.name ≠ s) : Named s .other

theorem IntegrationKind.name_of_lookup {s : String} {k : IntegrationKind}
    (h : named.lookup s = some k) : k.name = s := by
  have hnames : ∀ e ∈ named, e.2.name = e.1 := by decide
  obtain ⟨before, after, hsplit, -⟩ := List.lookup_eq_some_iff.mp h
  exact hnames (s, k) (by rw [hsplit]; exact List.mem_append_right _ List.mem_cons_self)

theorem IntegrationKind.ofName_eq_iff {s : String} {k : IntegrationKind} :
    ofName s = k ↔ Named s k := by
  constructor
  · rintro rfl
    cases hlookup : named.lookup s with
    | some k =>
      rw [ofName, hlookup, ← name_of_lookup hlookup]
      exact .known k
    | none =>
      rw [ofName, hlookup]
      refine .unknown fun k hk => ?_
      -- The name of a kind is found.
      have hfound : (named.lookup k.name).isSome = true := by cases k <;> decide
      rw [hk, hlookup] at hfound
      cases hfound
  · intro h
    cases h with
    | known => exact ofName_name k
    | unknown h =>
      cases hlookup : named.lookup s with
      | some k => exact absurd (name_of_lookup hlookup) (h k)
      | none => rw [ofName, hlookup, Option.getD_none]

namespace ManifestFields

/-! ### The three fields -/

/-- **Where the fields stand**: the domain, the kind and the quality scale, each if it is there. -/
inductive Places : Value → Option Value → Option Value → Option Value → Prop
  | object (fields : List (String × Value)) :
      Places (.object fields) (fields.lookup "domain") (fields.lookup "integration_type")
        (fields.lookup "quality_scale")
  | array (items : List Value) : Places (.array items) items[0]? items[1]? items[2]?

/-- What stands there is a text; it need not be there, and `null` is as good as nothing. -/
inductive GivesText : Option Value → Option String → Prop
  | absent : GivesText none none
  | null : GivesText (some .null) none
  | text (s : String) : GivesText (some (.string s)) (some s)

inductive LacksText : Option Value → ManifestError → Prop
  | other {v : Value} (hnull : v ≠ .null) (htext : ∀ s, v ≠ .string s) :
      LacksText (some v) (.wrongKind v .text)

/-- What stands there is the name of a kind, or an object with the name as its only key and `null`
under it.  Where nothing stands the kind is `hub`. -/
inductive GivesKind : Option Value → IntegrationKind → Prop
  | absent : GivesKind none .hub
  | text {s : String} {k : IntegrationKind} (h : IntegrationKind.Named s k) :
      GivesKind (some (.string s)) k
  | key {s : String} {k : IntegrationKind} (h : IntegrationKind.Named s k) :
      GivesKind (some (.object [(s, .null)])) k

inductive LacksKind : Option Value → ManifestError → Prop
  | value {s : String} {v : Value} (h : v ≠ .null) :
      LacksKind (some (.object [(s, v)])) (.wrongKind v .nothing)
  | keys {fields : List (String × Value)} (h : fields.length ≠ 1) :
      LacksKind (some (.object fields)) .notSingleKey
  | other {v : Value} (htext : ∀ s, v ≠ .string s) (hobject : ∀ fields, v ≠ .object fields) :
      LacksKind (some v) (.wrongKind v .nameOrMap)

structure Gives (d k q : Option Value) (fields : ManifestFields) : Prop where
  domain : GivesText d fields.domain
  kind : GivesKind k fields.kind
  qualityScale : GivesText q fields.qualityScale

/-- What stands at one of the three places is no field, and all are fields before it. -/
inductive Lacks (d k q : Option Value) : ManifestError → Prop
  | domain {error : ManifestError} (hd : LacksText d error) : Lacks d k q error
  | kind {domain : Option String} {error : ManifestError} (hd : GivesText d domain)
      (hk : LacksKind k error) : Lacks d k q error
  | qualityScale {domain : Option String} {kind : IntegrationKind} {error : ManifestError}
      (hd : GivesText d domain) (hk : GivesKind k kind) (hq : LacksText q error) :
      Lacks d k q error

def lengthError (count : Nat) : ManifestError :=
  if count = 0 then .tooFew 0 else if count < 3 then .tooFew 2 else .tooMany count

/-- **The value describes an integration**: its places have the fields, and an array has no item
more or less. -/
structure Describes (v : Value) (fields : ManifestFields) : Prop where
  places : ∃ d k q, Places v d k q ∧ Gives d k q fields
  three : ∀ items, v = .array items → items.length = 3

/-- **What is wrong with a value**: it has no places for fields, one of them lacks its field, or all
have one and an array has items more or less. -/
inductive Faulty : Value → ManifestError → Prop
  | shape {v : Value} (h : ∀ d k q, ¬ Places v d k q) : Faulty v (.wrongKind v .fields)
  | place {v : Value} {d k q : Option Value} {error : ManifestError} (h : Places v d k q)
      (hlacks : Lacks d k q error) : Faulty v error
  | length {items : List Value} {d k q : Option Value} {fields : ManifestFields}
      (h : Places (.array items) d k q) (hgives : Gives d k q fields)
      (hlength : items.length ≠ 3) : Faulty (.array items) (lengthError items.length)

/-! ### Reading one field -/

theorem optionalText_eq_ok_iff {p : Option Value} {t : Option String} :
    optionalText (p.getD .null) = .ok t ↔ GivesText p t := by
  constructor
  · intro h
    cases p with
    | none => cases h; exact .absent
    | some v =>
      cases v with
      | null => cases h; exact .null
      | string s => cases h; exact .text s
      | bool | number | array | object => cases h
  · intro h
    cases h <;> rfl

theorem optionalText_eq_error_iff {p : Option Value} {error : ManifestError} :
    optionalText (p.getD .null) = .error error ↔ LacksText p error := by
  constructor
  · intro h
    cases p with
    | none => cases h
    | some v =>
      cases v with
      | null | string => cases h
      | bool | number | array | object => cases h; exact .other nofun nofun
  · intro h
    cases h with
    | @other v hnull htext =>
      cases v with
      | null => exact absurd rfl hnull
      | string s => exact absurd rfl (htext s)
      | bool | number | array | object => rfl

def kindAt : Option Value → Except ManifestError IntegrationKind
  | some v => kindOf v
  | none => pure .hub

theorem kindAt_eq_ok_iff {p : Option Value} {k : IntegrationKind} :
    kindAt p = .ok k ↔ GivesKind p k := by
  constructor
  · intro h
    unfold kindAt kindOf at h
    split at h
    · split at h <;> cases h
      · exact .text (IntegrationKind.ofName_eq_iff.mp rfl)
      · exact .key (IntegrationKind.ofName_eq_iff.mp rfl)
    · cases h
      exact .absent
  · intro h
    cases h with
    | absent => rfl
    | text h | key h => exact congrArg Except.ok (IntegrationKind.ofName_eq_iff.mpr h)

theorem kindAt_eq_error_iff {p : Option Value} {error : ManifestError} :
    kindAt p = .error error ↔ LacksKind p error := by
  constructor
  · intro h
    unfold kindAt kindOf at h
    split at h
    next v =>
      split at h
      next => cases h
      next => cases h
      next name v hv =>
        cases h
        exact .value hv
      next fields _ hfields =>
        cases h
        refine .keys fun hone => ?_
        obtain ⟨⟨name, v⟩, hsingle⟩ := List.length_eq_one_iff.mp hone
        exact hfields name v hsingle
      next htext _ _ hobject =>
        cases h
        exact .other htext hobject
    next => cases h
  · intro h
    cases h with
    | @value s v hv =>
      cases v with
      | null => exact absurd rfl hv
      | bool | number | string | array | object => rfl
    | @keys fields hlength =>
      rcases fields with _ | ⟨first, _ | ⟨second, rest⟩⟩
      · rfl
      · exact absurd rfl hlength
      · obtain ⟨name, v⟩ := first
        cases v <;> rfl
    | @other v htext hobject =>
      cases v with
      | string s => exact absurd rfl (htext s)
      | object fields => exact absurd rfl (hobject fields)
      | null | bool | number | array => rfl

/-! ### Reading all fields -/

theorem bind_eq_ok_iff {α β : Type} {x : Except ManifestError α}
    {f : α → Except ManifestError β} {b : β} :
    (x >>= f) = .ok b ↔ ∃ a, x = .ok a ∧ f a = .ok b := by
  cases x <;> simp [bind, Except.bind]

theorem bind_eq_error_iff {α β : Type} {x : Except ManifestError α}
    {f : α → Except ManifestError β} {error : ManifestError} :
    (x >>= f) = .error error ↔ x = .error error ∨ ∃ a, x = .ok a ∧ f a = .error error := by
  cases x <;> simp [bind, Except.bind]

def ofPlaces (d k q : Option Value) : Except ManifestError ManifestFields := do
  let domain ← optionalText (d.getD .null)
  let kind ← kindAt k
  let qualityScale ← optionalText (q.getD .null)
  return { domain, kind, qualityScale }

theorem ofPlaces_eq_ok_iff {d k q : Option Value} {fields : ManifestFields} :
    ofPlaces d k q = .ok fields ↔ Gives d k q fields := by
  simp only [ofPlaces, bind_eq_ok_iff, optionalText_eq_ok_iff, kindAt_eq_ok_iff]
  constructor
  · rintro ⟨domain, hd, kind, hk, scale, hq, heq⟩
    cases heq
    exact ⟨hd, hk, hq⟩
  · rintro ⟨hd, hk, hq⟩
    exact ⟨_, hd, _, hk, _, hq, rfl⟩

theorem ofPlaces_eq_error_iff {d k q : Option Value} {error : ManifestError} :
    ofPlaces d k q = .error error ↔ Lacks d k q error := by
  simp only [ofPlaces, bind_eq_error_iff, optionalText_eq_ok_iff, optionalText_eq_error_iff,
    kindAt_eq_ok_iff, kindAt_eq_error_iff]
  constructor
  · rintro (hd | ⟨domain, hd, hk | ⟨kind, hk, hq | ⟨scale, -, heq⟩⟩⟩)
    · exact .domain hd
    · exact .kind hd hk
    · exact .qualityScale hd hk hq
    · cases heq
  · intro h
    cases h with
    | domain hd => exact .inl hd
    | kind hd hk => exact .inr ⟨_, hd, .inl hk⟩
    | qualityScale hd hk hq => exact .inr ⟨_, hd, .inr ⟨_, hk, .inl hq⟩⟩

def counted (fields : ManifestFields) : Value → Except ManifestError ManifestFields
  | .array items => if items.length = 3 then .ok fields else .error (lengthError items.length)
  | _ => .ok fields

theorem counted_eq_ok_iff {fields taken : ManifestFields} {v : Value} :
    counted taken v = .ok fields ↔
      taken = fields ∧ ∀ items, v = .array items → items.length = 3 := by
  cases v with
  | array items =>
    rw [counted]
    split
    next hthree => simp [hthree]
    next hlength => simp [hlength]
  | null | bool | number | string | object => simp [counted]

/-- Items that are not there are read like fields that are not there; then the items are counted. -/
theorem ofItems_eq (items : List Value) :
    ofItems items = ofPlaces items[0]? items[1]? items[2]? >>= (counted · (.array items)) := by
  rcases items with _ | ⟨d, _ | ⟨k, _ | ⟨q, more⟩⟩⟩
  · rfl
  · have hd : optionalText ([d][0]?.getD .null) = optionalText d := rfl
    rw [ofItems, ofPlaces, hd]
    cases optionalText d <;> rfl
  · have hd : optionalText ([d, k][0]?.getD .null) = optionalText d := rfl
    have hk : kindAt [d, k][1]? = kindOf k := rfl
    rw [ofItems, ofPlaces, hd, hk]
    cases optionalText d <;> cases kindOf k <;> rfl
  · have hd : optionalText ((d :: k :: q :: more)[0]?.getD .null) = optionalText d := rfl
    have hk : kindAt (d :: k :: q :: more)[1]? = kindOf k := rfl
    have hq : optionalText ((d :: k :: q :: more)[2]?.getD .null) = optionalText q := rfl
    have hmore (fields : ManifestFields) : counted fields (.array (d :: k :: q :: more)) =
        if more.isEmpty then .ok fields else .error (.tooMany (3 + more.length)) := by
      cases more with
      | nil => rfl
      | cons first rest =>
        have hcount : (d :: k :: q :: first :: rest).length = 3 + (first :: rest).length := by
          simp only [List.length_cons]
          omega
        have hlong : 0 < (first :: rest).length := Nat.succ_pos _
        rw [counted, hcount, if_neg (by omega), lengthError, if_neg (by omega),
          if_neg (by omega)]
        rfl
    rw [ofItems, ofPlaces, hd, hk, hq]
    simp only [hmore]
    cases optionalText d <;> cases kindOf k <;> cases optionalText q <;> rfl

/-- Wherever the fields stand, they are taken from there. -/
theorem ofValue_of_places {v : Value} {d k q : Option Value} (h : Places v d k q) :
    ofValue v = ofPlaces d k q >>= (counted · v) := by
  cases h with
  | object members =>
    have hcounted (x : Except ManifestError ManifestFields) :
        x >>= (counted · (.object members)) = x := bind_pure x
    rw [hcounted, ofValue, ofObject, ofPlaces, Value.get?, Value.get?, Value.get?]
    cases members.lookup "integration_type" <;> rfl
  | array items => exact ofItems_eq items

theorem ofValue_of_not_places {v : Value} (h : ∀ d k q, ¬ Places v d k q) :
    ofValue v = .error (.wrongKind v .fields) := by
  cases v with
  | object members => exact absurd (.object members) (h _ _ _)
  | array items => exact absurd (.array items) (h _ _ _)
  | null | bool | number | string => rfl

theorem exists_places_or (v : Value) : (∃ d k q, Places v d k q) ∨ ∀ d k q, ¬ Places v d k q := by
  by_cases h : ∃ d k q, Places v d k q
  · exact .inl h
  · exact .inr fun d k q hplaces => h ⟨d, k, q, hplaces⟩

/-- **The fields are taken from a value exactly if it describes an integration.** -/
theorem ofValue_eq_ok_iff {v : Value} {fields : ManifestFields} :
    ofValue v = .ok fields ↔ Describes v fields := by
  constructor
  · intro h
    rcases exists_places_or v with ⟨d, k, q, hplaces⟩ | hnone
    · rw [ofValue_of_places hplaces, bind_eq_ok_iff] at h
      obtain ⟨taken, htaken, hcounted⟩ := h
      obtain ⟨rfl, hthree⟩ := counted_eq_ok_iff.mp hcounted
      exact ⟨⟨d, k, q, hplaces, ofPlaces_eq_ok_iff.mp htaken⟩, hthree⟩
    · rw [ofValue_of_not_places hnone] at h
      cases h
  · rintro ⟨⟨d, k, q, hplaces, hgives⟩, hthree⟩
    rw [ofValue_of_places hplaces, bind_eq_ok_iff]
    exact ⟨fields, ofPlaces_eq_ok_iff.mpr hgives, counted_eq_ok_iff.mpr ⟨rfl, hthree⟩⟩

/-- **Otherwise the first fault of the value is told.** -/
theorem ofValue_eq_error_iff {v : Value} {error : ManifestError} :
    ofValue v = .error error ↔ Faulty v error := by
  constructor
  · intro h
    rcases exists_places_or v with ⟨d, k, q, hplaces⟩ | hnone
    · rw [ofValue_of_places hplaces, bind_eq_error_iff] at h
      rcases h with hlacks | ⟨taken, htaken, hcounted⟩
      · exact .place hplaces (ofPlaces_eq_error_iff.mp hlacks)
      · cases v with
        | array items =>
          rw [counted] at hcounted
          split at hcounted
          next => cases hcounted
          next hlength =>
            cases hcounted
            exact .length hplaces (ofPlaces_eq_ok_iff.mp htaken) hlength
        | null | bool | number | string | object => cases hcounted
    · rw [ofValue_of_not_places hnone] at h
      cases h
      exact .shape hnone
  · intro h
    cases h with
    | shape hnone => exact ofValue_of_not_places hnone
    | place hplaces hlacks =>
      rw [ofValue_of_places hplaces, ofPlaces_eq_error_iff.mpr hlacks]
      rfl
    | length hplaces hgives hlength =>
      rw [ofValue_of_places hplaces, ofPlaces_eq_ok_iff.mpr hgives]
      exact if_neg hlength

theorem exists_faulty_iff {v : Value} :
    (∃ error, Faulty v error) ↔ ¬ ∃ fields, Describes v fields := by
  simp only [← ofValue_eq_ok_iff, ← ofValue_eq_error_iff]
  cases ofValue v <;> simp

end ManifestFields

/-! ### Loading -/

namespace Integration

open ManifestFields (Describes Faulty)

/-- The file holds the text of a JSON value. -/
def HoldsJson (files : FileTree) (file : Path) (v : Value) : Prop :=
  ∃ text : String, files.bytes file = .ok text.toByteArray ∧ Value.read text = .ok v

/-- **The file holds no JSON text**, and what is said about it. -/
inductive HoldsNoJson (files : FileTree) (file : Path) : String → Prop
  | unreadable {e : FileError} (h : files.bytes file = .error e) :
      HoldsNoJson files file ("Manifest file not readable: " ++ e.message)
  | notText {b : ByteArray} (h : files.bytes file = .ok b) (hb : ¬ b.IsValidUTF8) :
      HoldsNoJson files file "Manifest file not readable: stream did not contain valid UTF-8"
  | notJson {text : String} {stop : Json.Stop} (h : files.bytes file = .ok text.toByteArray)
      (hread : Value.read text = .error stop) :
      HoldsNoJson files file ("Manifest contains invalid JSON: " ++ stop.message text.toList)

/-- **What an integration is after it was loaded**, with the findings there are then. -/
inductive Loaded (files : FileTree) (directory : Path) (core : Bool) : Entry → Prop
  | bare {message : String} (h : HoldsNoJson files (directory.child "manifest.json") message) :
      Loaded files directory core
        ⟨{ domain := directory.fileName, path := directory, core := core, kind := .hub,
           qualityScale := none, manifest := .object [] }, [⟨"manifest", message⟩]⟩
  | faulty {v : Value} {error : ManifestError}
      (h : HoldsJson files (directory.child "manifest.json") v) (hv : Faulty v error) :
      Loaded files directory core
        ⟨{ domain := directory.fileName, path := directory, core := core, kind := .hub,
           qualityScale := none, manifest := v },
          [⟨"manifest", "Invalid manifest: " ++ error.message⟩]⟩
  | described {v : Value} {fields : ManifestFields}
      (h : HoldsJson files (directory.child "manifest.json") v) (hv : Describes v fields) :
      Loaded files directory core
        ⟨{ domain := fields.domain.getD directory.fileName, path := directory, core := core,
           kind := fields.kind, qualityScale := fields.qualityScale, manifest := v }, []⟩

section Load

variable {files : FileTree} {directory : Path} {core : Bool}

theorem load_of_holdsNoJson {message : String}
    (h : HoldsNoJson files (directory.child "manifest.json") message) :
    load files directory core = ⟨ofDirectory directory core, [⟨"manifest", message⟩]⟩ := by
  cases h with
  | unreadable h =>
    have htext := FileTree.text_eq_error_iff.mpr (.inl h)
    simp only [load, manifestFile, describe, htext]
    rfl
  | notText h hb =>
    have htext := FileTree.text_eq_error_iff.mpr (.inr ⟨_, h, hb, rfl⟩)
    simp only [load, manifestFile, describe, htext]
    rfl
  | notJson h hread =>
    have htext := FileTree.text_eq_ok_iff.mpr h
    simp only [load, manifestFile, describe, htext, hread]
    rfl

theorem load_of_holdsJson {v : Value} (h : HoldsJson files (directory.child "manifest.json") v) :
    load files directory core =
      match ManifestFields.ofValue v with
      | .ok fields => ⟨{ (ofDirectory directory core).withFields fields with manifest := v }, []⟩
      | .error e =>
        ⟨{ ofDirectory directory core with manifest := v },
          [⟨"manifest", "Invalid manifest: " ++ e.message⟩]⟩ := by
  obtain ⟨text, hbytes, hread⟩ := h
  have htext := FileTree.text_eq_ok_iff.mpr hbytes
  simp only [load, manifestFile, describe, htext, hread]
  cases ManifestFields.ofValue v <;> rfl

theorem holdsJson_or (files : FileTree) (file : Path) :
    (∃ v, HoldsJson files file v) ∨ ∃ message, HoldsNoJson files file message := by
  cases htext : files.text file with
  | error e =>
    refine .inr ?_
    rcases FileTree.text_eq_error_iff.mp htext with h | ⟨b, h, hb, -⟩
    · exact ⟨_, .unreadable h⟩
    · exact ⟨_, .notText h hb⟩
  | ok text =>
    have hbytes := FileTree.text_eq_ok_iff.mp htext
    cases hread : Value.read text with
    | error stop => exact .inr ⟨_, .notJson hbytes hread⟩
    | ok v => exact .inl ⟨v, text, hbytes, hread⟩

theorem load_eq_of_loaded {e : Entry} (h : Loaded files directory core e) :
    load files directory core = e := by
  cases h with
  | bare h => exact load_of_holdsNoJson h
  | faulty h hv =>
    rw [load_of_holdsJson h, ManifestFields.ofValue_eq_error_iff.mpr hv]
    rfl
  | described h hv =>
    rw [load_of_holdsJson h, ManifestFields.ofValue_eq_ok_iff.mpr hv]
    rfl

theorem exists_loaded (files : FileTree) (directory : Path) (core : Bool) :
    ∃ e, Loaded files directory core e := by
  rcases holdsJson_or files (directory.child "manifest.json") with ⟨v, h⟩ | ⟨message, h⟩
  · cases hv : ManifestFields.ofValue v with
    | ok fields => exact ⟨_, .described h (ManifestFields.ofValue_eq_ok_iff.mp hv)⟩
    | error e => exact ⟨_, .faulty h (ManifestFields.ofValue_eq_error_iff.mp hv)⟩
  · exact ⟨_, .bare h⟩

end Load

/-- **Loading takes all fields from a manifest or none.**  What is loaded is the entry that `Loaded`
allows; it stays in its directory and has one finding at most; and a value is faulty exactly if it
describes no integration, whichever of its fields are as they should be. -/
theorem load_all_or_nothing (files : FileTree) (directory : Path) (core : Bool) :
    (∀ e, load files directory core = e ↔ Loaded files directory core e) ∧
    (load files directory core).integration.path = directory ∧
    (load files directory core).integration.core = core ∧
    ((load files directory core).findings = [] ∨
      ∃ message, (load files directory core).findings = [⟨"manifest", message⟩]) ∧
    ∀ v, (∃ error, Faulty v error) ↔ ¬ ∃ fields, Describes v fields := by
  obtain ⟨e, he⟩ := exists_loaded files directory core
  have hload := load_eq_of_loaded he
  refine ⟨fun e' => ⟨?_, load_eq_of_loaded⟩, path_load files directory core, ?_, ?_,
    fun v => ManifestFields.exists_faulty_iff⟩
  · rintro rfl
    rw [hload]
    exact he
  · rw [hload]
    cases he <;> rfl
  · rw [hload]
    cases he with
    | bare | faulty => exact .inr ⟨_, rfl⟩
    | described => exact .inl rfl

/-- The manifest gives a domain and a kind, but its quality scale is a number. -/
def numberedScale : FileTree :=
  let text := "\x7b\"domain\": \"lamp\", \"integration_type\": \"device\", \"quality_scale\": 5\x7d"
  ⟨.directory [("hue", .directory [("manifest.json", .file text.toByteArray)])], []⟩

/-- None of the three is taken. -/
example :
    let e := load numberedScale ⟨"hue"⟩ true
    e.integration.domain = "hue" ∧ e.integration.kind = .hub ∧ e.integration.qualityScale = none ∧
      e.findings.length = 1 := by
  decide +kernel

end Integration

end QualityScale
