import Mathlib.Data.List.Forall2
import Delegation.Json.Decoding
import Delegation.Proofs.ReadBack

/-!
# What was written is decoded again

A document that was written reaches its decoder in different forms: as it is, with the keys of its
objects in ascending order, or as a text. Each of them *presents* the document (`Presents`): layer
by layer it is seen as the document is, with the entries of its objects in some order. A codec is
`Faithful` if whatever presents the document of a value is decoded as that value, or as what is
kept of it.

A record is written as the entries of its fields, and its layout *agrees* with them
(`Layout.Agrees`) if it makes the record from any entries that present them. Agreement is shown for
each kind of field and for the two ways of putting layouts together, so a record is dealt with in
the shape in which its layout is written (`Layout.Agrees.decode`). `Faithful.roundTrips` says what
all this is for.
-/

namespace Delegation.Json

/-! ## The entry of a key -/

section
variable {β γ : Type}

theorem lookUp_cons (k : String) (e : String × β) (es : List (String × β)) :
    lookUp k (e :: es) = if e.1 = k then some e.2 else lookUp k es := by
  by_cases same : e.1 = k <;> simp [lookUp, same]

theorem mem_of_lookUp {k : String} {b : β} {es : List (String × β)}
    (found : lookUp k es = some b) : (k, b) ∈ es := by
  induction es with
  | nil => cases found
  | cons e es ih =>
    by_cases same : e.1 = k
    · rw [lookUp_cons, if_pos same] at found
      cases found
      exact same ▸ .head _
    · rw [lookUp_cons, if_neg same] at found
      exact .tail _ (ih found)

theorem lookUp_of_mem {e : String × β} {es : List (String × β)}
    (once : (es.map (·.1)).Nodup) (he : e ∈ es) : lookUp e.1 es = some e.2 := by
  induction es with
  | nil => cases he
  | cons x es ih =>
    obtain ⟨first, others⟩ := List.nodup_cons.1 once
    rcases List.mem_cons.1 he with rfl | he
    · rw [lookUp_cons, if_pos rfl]
    · have differs : x.1 ≠ e.1 := fun same => first (List.mem_map.2 ⟨e, he, same.symm⟩)
      rw [lookUp_cons, if_neg differs, ih others he]

theorem lookUp_eq_none_iff {k : String} {es : List (String × β)} :
    lookUp k es = none ↔ k ∉ es.map (·.1) := by
  induction es with
  | nil => simp [lookUp]
  | cons e es ih =>
    rw [lookUp_cons, List.map_cons, List.mem_cons, not_or]
    by_cases same : e.1 = k
    · simp [same]
    · simp [same, ih, Ne.symm same]

theorem lookUp_append (k : String) (es₁ es₂ : List (String × β)) :
    lookUp k (es₁ ++ es₂) = (lookUp k es₁).or (lookUp k es₂) := by
  induction es₁ with
  | nil => simp [lookUp]
  | cons e es ih => by_cases same : e.1 = k <;> simp [lookUp_cons, same, ih]

theorem lookUp_map (k : String) (f : β → γ) (es : List (String × β)) :
    lookUp k (es.map fun e => (e.1, f e.2)) = (lookUp k es).map f := by
  induction es with
  | nil => rfl
  | cons e es ih => by_cases same : e.1 = k <;> simp [lookUp_cons, same, ih]

end

theorem find_eq_lookUp (k : String) (es : List (String × Json)) : find k es = lookUp k es := by
  induction es with
  | nil => rfl
  | cons e es ih => rw [find, lookUp_cons, ih]

/-- Entries of different keys keep their values when they are brought in order. -/
theorem lookUp_collect (k : String) {es : List (String × Json)} (once : (es.map (·.1)).Nodup) :
    lookUp k (collect es) = lookUp k es := by
  have from_front (es acc : List (String × Json)) (once : (es.map (·.1)).Nodup) :
      find k (es.foldl (fun acc e => insert e.1 e.2 acc) acc) = (find k es).or (find k acc) := by
    induction es generalizing acc with
    | nil => simp [find]
    | cons e es ih =>
      obtain ⟨first, others⟩ := List.nodup_cons.1 once
      rw [List.foldl_cons, ih _ others]
      by_cases same : e.1 = k
      · have absent : find k es = none := by
          rw [find_eq_lookUp, lookUp_eq_none_iff, ← same]
          exact first
        rw [absent, find, if_pos same, ← same, find_insert_self]
        rfl
      · rw [find, if_neg same, find_insert_of_ne (Ne.symm same)]
  rw [← find_eq_lookUp, ← find_eq_lookUp, collect, from_front es [] once]
  simp [find]

/-! ## Documents as they are written -/

/-- Numbers are whole, and each object has different keys. -/
inductive Neat : Json → Prop
  | null : Neat .null
  | bool (b : Bool) : Neat (.bool b)
  | int {i : Int} (inRange : (Numeral.int i).InRange) : Neat (.num (.int i))
  | str (s : String) : Neat (.str s)
  | arr {items : List Json} (each : ∀ j ∈ items, Neat j) : Neat (.arr items)
  | obj {entries : List (String × Json)} (once : (entries.map (·.1)).Nodup)
      (each : ∀ e ∈ entries, Neat e.2) : Neat (.obj entries)

theorem wholeItems_iff {vs : List Json} : WholeItems vs ↔ ∀ v ∈ vs, Whole v := by
  induction vs with
  | nil => simp [WholeItems]
  | cons v vs ih => simp [WholeItems, ih]

theorem wholeEntries_iff {es : List (String × Json)} : WholeEntries es ↔ ∀ e ∈ es, Whole e.2 := by
  induction es with
  | nil => simp [WholeEntries]
  | cons e es ih => simp [WholeEntries, ih]

theorem Neat.whole {j : Json} (neat : Neat j) : Whole j := by
  induction neat with
  | null | bool _ | str _ => trivial
  | int inRange => exact inRange
  | arr _ ih => exact wholeItems_iff.2 ih
  | obj _ _ ih => exact wholeEntries_iff.2 ih

/-! ## Presenting a document -/

section
variable {ν : Type} [Source ν]

/-- Layer by layer, the value is seen as the document is; the entries of an object may stand in
another order. -/
inductive Presents : ν → Json → Prop
  | null {v : ν} (seen : Source.view v = .null) : Presents v .null
  | bool {v : ν} {b : Bool} (seen : Source.view v = .bool b) : Presents v (.bool b)
  | num {v : ν} {n : Numeral} (seen : Source.view v = .num n) : Presents v (.num n)
  | str {v : ν} {s : String} (seen : Source.view v = .str s) : Presents v (.str s)
  | arr {v : ν} {vs : List ν} {items : List Json} (seen : Source.view v = .seq vs none)
      (each : List.Forall₂ Presents vs items) : Presents v (.arr items)
  | obj {v : ν} {ves : List (String × ν)} {entries : List (String × Json)}
      (seen : Source.view v = .map (ves.map fun e => (.ok e.1, e.2)) none)
      (once : (ves.map (·.1)).Nodup)
      (each : ∀ k, Option.Rel Presents (lookUp k ves) (lookUp k entries)) :
      Presents v (.obj entries)

/-- Only null is seen as null. -/
theorem Presents.view_ne_null {v : ν} {j : Json} (shown : Presents v j) (solid : j ≠ .null) :
    Source.view v ≠ .null := by
  cases shown with
  | null => exact absurd rfl solid
  | bool seen | num seen | str seen | arr seen | obj seen => simp [seen]

theorem exists_of_rel_some {o : Option ν} {j : Json} (shown : Option.Rel Presents o (some j)) :
    ∃ v, o = some v ∧ Presents v j := by
  cases shown with
  | some shown => exact ⟨_, rfl, shown⟩

theorem eq_none_of_rel_none {o : Option ν} (shown : Option.Rel Presents o none) : o = none := by
  cases shown
  rfl

/-- Entries under the same keys, each value presented by what a function makes of it. -/
theorem rel_lookUp_map {f : Json → ν} {es : List (String × Json)}
    (each : ∀ e ∈ es, Presents (f e.2) e.2) (k : String) :
    Option.Rel Presents (lookUp k (es.map fun e => (e.1, f e.2))) (lookUp k es) := by
  rw [lookUp_map]
  cases found : lookUp k es with
  | none => exact .none
  | some j => exact .some (each _ (mem_of_lookUp found))

end

/-- A document presents itself. -/
theorem presents_self {j : Json} (neat : Neat j) : Presents j j := by
  induction neat with
  | null => exact .null rfl
  | bool => exact .bool rfl
  | int => exact .num rfl
  | str => exact .str rfl
  | arr _ ih => exact .arr rfl (List.forall₂_same.2 ih)
  | obj once _ ih =>
    exact .obj rfl once fun k => by simpa using rel_lookUp_map (f := id) ih k

theorem sortedItems_eq_map (vs : List Json) : sortedItems vs = vs.map sorted := by
  induction vs with
  | nil => rfl
  | cons v vs ih => simp [sortedItems, ih]

theorem sortedEntries_eq_map (es : List (String × Json)) :
    sortedEntries es = es.map fun e => (e.1, e.2.sorted) := by
  induction es with
  | nil => rfl
  | cons e es ih => simp [sortedEntries, ih]

/-- A document with its keys in ascending order presents it. -/
theorem presents_sorted {j : Json} (neat : Neat j) : Presents j.sorted j := by
  induction neat with
  | null => exact .null rfl
  | bool => exact .bool rfl
  | int => exact .num rfl
  | str => exact .str rfl
  | @arr vs _ ih =>
    have each : List.Forall₂ Presents (sortedItems vs) vs := by
      rw [sortedItems_eq_map, List.forall₂_map_left_iff]
      exact List.forall₂_same.2 ih
    exact .arr rfl each
  | @obj es once _ ih =>
    have distinct : ((collect (sortedEntries es)).map (·.1)).Nodup := by
      refine (ascending_collect _).imp fun less same => ?_
      exact String.lt_irrefl _ (same ▸ less)
    refine .obj rfl distinct fun k => ?_
    rw [sortedEntries_eq_map, lookUp_collect k (by simpa [Function.comp_def] using once)]
    exact rel_lookUp_map ih k

theorem Draft.ofItems_eq_map (vs : List Json) : Draft.ofItems vs = vs.map Draft.ofJson := by
  induction vs with
  | nil => rfl
  | cons v vs ih => simp [ofItems, ih]

theorem Draft.ofEntries_eq_map (es : List (String × Json)) :
    Draft.ofEntries es = es.map fun e => (⟨.ok e.1, none⟩, Draft.ofJson e.2) := by
  induction es with
  | nil => rfl
  | cons e es ih => simp [ofEntries, ih]

/-- The draft of a document presents it. -/
theorem presents_ofJson {j : Json} (neat : Neat j) : Presents (Draft.ofJson j) j := by
  induction neat with
  | null => exact .null rfl
  | bool => exact .bool rfl
  | int => exact .num rfl
  | str => exact .str rfl
  | @arr vs _ ih =>
    have each : List.Forall₂ Presents (Draft.ofItems vs) vs := by
      rw [Draft.ofItems_eq_map, List.forall₂_map_left_iff]
      exact List.forall₂_same.2 ih
    exact .arr rfl each
  | @obj es once _ ih =>
    have seen : Source.view (Draft.ofJson (.obj es)) =
        .map ((es.map fun e => (e.1, Draft.ofJson e.2)).map fun e => (.ok e.1, e.2)) none := by
      simp [Draft.ofJson, Source.view, Draft.ofEntries_eq_map]
    exact .obj seen (by simpa [Function.comp_def] using once) fun k => rel_lookUp_map ih k

/-! ## Layouts -/

section
variable {ν α β : Type}

/-- Two parts of which a third was made. -/
theorem ok_of_ap {g : Decoded (α → β)} {l : Decoded α} {b : β}
    (made : (do let f ← g; let a ← l; return f a) = (.ok b : Decoded β)) :
    ∃ f a, g = .ok f ∧ l = .ok a ∧ f a = b := by
  obtain ⟨f, hf, made⟩ := ok_of_bind made
  obtain ⟨a, ha, made⟩ := ok_of_bind made
  exact ⟨f, a, hf, ha, Except.ok.inj made⟩

namespace Layout

def names (l : Layout ν α) : List String := l.fields.map (·.1)

@[simp] theorem names_map (f : α → β) (l : Layout ν α) : (f <$> l).names = l.names := rfl

@[simp] theorem names_ap (g : Layout ν (α → β)) (l : Layout ν α) :
    (g <*> l).names = g.names ++ l.names :=
  List.map_append

@[simp] theorem names_required (name : String) (decode : ν → Decoded α) :
    (required name decode).names = [name] := rfl

@[simp] theorem names_nullable [Source ν] (name : String) (decode : ν → Decoded α) :
    (nullable name decode).names = [name] := rfl

@[simp] theorem names_defaulted (name : String) (decode : ν → Decoded α) (value : α) :
    (defaulted name decode value).names = [name] := rfl

@[simp] theorem names_omissible [Source ν] (name : String) (decode : ν → Decoded α) :
    (omissible name decode).names = [name] := rfl

theorem find?_of_mem_names {l : Layout ν α} {k : String} (hk : k ∈ l.names) :
    ∃ f ∈ l.fields, l.fields.find? (·.1 = k) = some f ∧ f.1 = k := by
  obtain ⟨f, hf, same⟩ := List.mem_map.1 hk
  cases found : l.fields.find? (·.1 = k) with
  | none => simpa [same] using List.find?_eq_none.1 found f hf
  | some f' =>
    have named : f'.1 = k := by simpa using List.find?_some found
    exact ⟨f', List.mem_of_find?_eq_some found, rfl, named⟩

/-- Whatever the layout makes, from entries or from an array, has the property. -/
structure Always (l : Layout ν α) (P : α → Prop) : Prop where
  named : ∀ ves a, l.named ves = .ok a → P a
  placed : ∀ row i a, l.placed row i = .ok a → P a

theorem always_field {name : String} {decode : ν → Decoded α} {unnamed : Decoded α}
    {beyond : Option α} {P : α → Prop} (decoded : ∀ v a, decode v = .ok a → P a)
    (absent : ∀ a, unnamed = .ok a → P a) (ended : ∀ a, beyond = some a → P a) :
    (field name decode unnamed beyond).Always P where
  named ves a made := by
    simp only [field] at made
    split at made
    · exact decoded _ a made
    · exact absent a made
  placed row i a made := by
    simp only [field] at made
    obtain ⟨item, -, made⟩ := ok_of_bind made
    split at made
    · exact decoded _ a made
    · cases made
      exact ended a rfl
    · cases made

theorem always_map {l : Layout ν α} {f : α → β} {Q : β → Prop} (next : ∀ a, Q (f a)) :
    (f <$> l).Always Q where
  named ves b made := by
    obtain ⟨a, -, rfl⟩ := ok_of_map made
    exact next a
  placed row i b made := by
    obtain ⟨a, -, rfl⟩ := ok_of_map made
    exact next a

theorem Always.ap {g : Layout ν (α → β)} {l : Layout ν α} {P : α → Prop} {Q : β → Prop}
    (first : g.Always fun f => ∀ a, P a → Q (f a)) (second : l.Always P) :
    (g <*> l).Always Q where
  named ves b made := by
    obtain ⟨f, a, hf, ha, rfl⟩ := ok_of_ap made
    exact first.named ves f hf a (second.named ves a ha)
  placed row i b made := by
    obtain ⟨f, a, hf, ha, rfl⟩ := ok_of_ap made
    exact first.placed row i f hf a (second.placed row _ a ha)

/-- A part of which nothing has to be known. -/
theorem Always.ap_any {g : Layout ν (α → β)} {l : Layout ν α} {Q : β → Prop}
    (first : g.Always fun f => ∀ a, Q (f a)) : (g <*> l).Always Q where
  named ves b made := by
    obtain ⟨f, a, hf, -, rfl⟩ := ok_of_ap made
    exact first.named ves f hf a
  placed row i b made := by
    obtain ⟨f, a, hf, -, rfl⟩ := ok_of_ap made
    exact first.placed row i f hf a

end Layout

end

/-! ## Faithful codecs -/

section
variable {ν : Type} [Source ν] {α β : Type}

/-- Whatever presents the document of a value is decoded as what is kept of the value, and of
whatever was decoded all is kept. -/
structure Faithful (encode : α → Json) (decode : ν → Decoded α) (kept : α → α) : Prop where
  neat : ∀ a, Neat (encode a)
  /-- No value is written as null. -/
  solid : ∀ a, encode a ≠ .null
  reads : ∀ a v, Presents v (encode a) → decode v = .ok (kept a)
  settled : ∀ v a, decode v = .ok a → kept a = a

theorem faithful_string : Faithful (ν := ν) .str decodeString id where
  neat := .str
  solid _ := Json.noConfusion
  reads s v shown := by
    cases shown with
    | str seen => simp [decodeString, seen]
  settled _ _ _ := rfl

theorem faithful_bool : Faithful (ν := ν) .bool decodeBool id where
  neat := .bool
  solid _ := Json.noConfusion
  reads b v shown := by
    cases shown with
    | bool seen => simp [decodeBool, seen]
  settled _ _ _ := rfl

theorem decodeItems_of_presents {encode : α → Json} {decode : ν → Decoded α}
    (reads : ∀ a v, Presents v (encode a) → decode v = .ok a) {as : List α} {vs : List ν}
    (each : List.Forall₂ Presents vs (as.map encode)) : decodeItems decode vs = .ok as := by
  induction as generalizing vs with
  | nil =>
    cases each
    rfl
  | cons a as ih =>
    obtain ⟨v, vs, first, others, rfl⟩ := List.forall₂_cons_right_iff.1 each
    simp [decodeItems, reads a v first, ih others, bind, Except.bind, pure, Except.pure]

/-- A list whose items are written one by one. -/
theorem Faithful.list {encode : α → Json} {decode : ν → Decoded α}
    (codec : Faithful encode decode id) :
    Faithful (fun as => .arr (as.map encode)) (decodeList decode) id where
  neat as := by
    refine .arr fun j hj => ?_
    obtain ⟨a, -, rfl⟩ := List.mem_map.1 hj
    exact codec.neat a
  solid _ := Json.noConfusion
  reads as v shown := by
    cases shown with
    | arr seen each =>
      have items := decodeItems_of_presents codec.reads each
      simp [decodeList, seen, items, faultless, bind, Except.bind, pure, Except.pure]
  settled _ _ _ := rfl

theorem decodeName_of_mem {all : List α} {text : α → String} (once : (all.map text).Nodup)
    {a : α} (ha : a ∈ all) : decodeName (all.map fun a => (text a, a)) (text a) = .ok a := by
  have found : lookUp (text a) (all.map fun a => (text a, a)) = some a := by
    refine lookUp_of_mem (e := (text a, a)) ?_ (List.mem_map.2 ⟨a, ha, rfl⟩)
    simpa [Function.comp_def] using once
  obtain ⟨e, he, same⟩ := Option.map_eq_some_iff.1 found
  simp [decodeName, he, same]

/-- One of several names, each of a different text. -/
theorem faithful_variant {all : List α} {text : α → String} (complete : ∀ a, a ∈ all)
    (once : (all.map text).Nodup) :
    Faithful (ν := ν) (fun a => .str (text a)) (decodeVariant (all.map fun a => (text a, a)))
      id where
  neat a := .str (text a)
  solid _ := Json.noConfusion
  reads a v shown := by
    cases shown with
    | str seen => simp [decodeVariant, seen, decodeName_of_mem once (complete a)]
  settled _ _ _ := rfl

theorem neat_ofOption {encode : α → Json} (neat : ∀ a, Neat (encode a)) (o : Option α) :
    Neat (.ofOption encode o) := by
  cases o with
  | none => exact .null
  | some a => exact neat a

/-- A value that may be absent is decoded from null or from the document of the value. -/
theorem Faithful.decodeOption_ofOption {encode : α → Json} {decode : ν → Decoded α}
    {kept : α → α} (codec : Faithful encode decode kept) {o : Option α} {v : ν}
    (shown : Presents v (.ofOption encode o)) : decodeOption decode v = .ok (o.map kept) := by
  cases o with
  | none =>
    cases shown with
    | null seen => simp [decodeOption, seen]
  | some a =>
    have solid := shown.view_ne_null (codec.solid a)
    have decoded := codec.reads a v shown
    unfold decodeOption
    split
    · exact absurd ‹_› solid
    · simp [decoded, Except.map]

theorem Faithful.settled_of_decodeOption {encode : α → Json} {decode : ν → Decoded α}
    {kept : α → α} (codec : Faithful encode decode kept) {v : ν} {o : Option α}
    (decoded : decodeOption decode v = .ok o) : o.map kept = o := by
  unfold decodeOption at decoded
  split at decoded
  · cases decoded
    rfl
  · obtain ⟨a, ha, rfl⟩ := ok_of_map decoded
    simp [codec.settled v a ha]

/-! ## Records -/

namespace Layout

/-- From entries that present those of its fields, the layout makes the record. -/
structure Agrees (l : Layout ν α) (es : List (String × Json)) (a : α) : Prop where
  /-- Fields are written in order, and some of them may be left out. -/
  written : (es.map (·.1)).Sublist l.names
  neat : ∀ e ∈ es, Neat e.2
  reads : l.names.Nodup → ∀ ves : List (String × ν),
    (∀ f ∈ l.fields, Option.Rel Presents (lookUp f.1 ves) (lookUp f.1 es)) →
      l.named ves = .ok a ∧ ∀ f ∈ l.fields, ∀ v, lookUp f.1 ves = some v → f.2 v = .ok ()

theorem agrees_written {name : String} {decode : ν → Decoded α} {unnamed : Decoded α}
    {beyond : Option α} {j : Json} {a : α} (neat : Neat j)
    (reads : ∀ v, Presents v j → decode v = .ok a) :
    Agrees (field name decode unnamed beyond) [(name, j)] a where
  written := List.Sublist.refl [name]
  neat e he := by
    rw [List.mem_singleton.1 he]
    exact neat
  reads _ ves shown := by
    have one := shown _ (.head _)
    rw [lookUp_cons, if_pos rfl] at one
    obtain ⟨v, (found : lookUp name ves = some v), one⟩ := exists_of_rel_some one
    have decoded := reads v one
    simp [field, checked, found, decoded, Except.map]

theorem agrees_leftOut {name : String} {decode : ν → Decoded α} {unnamed : Decoded α}
    {beyond : Option α} {a : α} (absent : unnamed = .ok a) :
    Agrees (field name decode unnamed beyond) [] a where
  written := List.nil_sublist _
  neat e he := nomatch he
  reads _ ves shown := by
    have missing := eq_none_of_rel_none (shown _ (.head _))
    simp [field, missing, absent]

section
variable {encode : α → Json} {decode : ν → Decoded α} {kept : α → α} {name : String}

theorem agrees_required (codec : Faithful encode decode kept) (a : α) :
    Agrees (required name decode) [(name, encode a)] (kept a) :=
  agrees_written (codec.neat a) (codec.reads a)

theorem agrees_defaulted (codec : Faithful encode decode kept) (value a : α) :
    Agrees (defaulted name decode value) [(name, encode a)] (kept a) :=
  agrees_written (codec.neat a) (codec.reads a)

/-- An absent value is written as null. -/
theorem agrees_nullable (codec : Faithful encode decode kept) (o : Option α) :
    Agrees (nullable name decode) [(name, .ofOption encode o)] (o.map kept) :=
  agrees_written (neat_ofOption codec.neat o) fun _ => codec.decodeOption_ofOption

/-- The field may be left out, but is not. -/
theorem agrees_omissible (codec : Faithful encode decode kept) (o : Option α) :
    Agrees (omissible name decode) [(name, .ofOption encode o)] (o.map kept) :=
  agrees_written (neat_ofOption codec.neat o) fun _ => codec.decodeOption_ofOption

/-- An absent value is left out. -/
theorem agrees_entryIf (codec : Faithful encode decode kept) (o : Option α) :
    Agrees (omissible name decode) (entryIf name encode o) (o.map kept) := by
  cases o with
  | none => exact agrees_leftOut rfl
  | some a => exact agrees_written (codec.neat a) fun _ => codec.decodeOption_ofOption (o := some a)

theorem always_nullable (codec : Faithful encode decode kept) :
    (nullable name decode).Always fun o => o.map kept = o := by
  refine always_field (fun _ _ => codec.settled_of_decodeOption) (fun o absent => ?_) ?_
  · cases absent
    rfl
  · exact fun _ ended => nomatch ended

theorem always_omissible (codec : Faithful encode decode kept) :
    (omissible name decode).Always fun o => o.map kept = o := by
  refine always_field (fun _ _ => codec.settled_of_decodeOption) (fun o absent => ?_)
    fun o ended => ?_
  · cases absent
    rfl
  · cases ended
    rfl

end

theorem Agrees.map {l : Layout ν α} {es : List (String × Json)} {a : α} (f : α → β)
    (agrees : Agrees l es a) : Agrees (f <$> l) es (f a) where
  written := agrees.written
  neat := agrees.neat
  reads once ves shown := by
    obtain ⟨named, passed⟩ := agrees.reads once ves shown
    have named' : (f <$> l).named ves = (l.named ves).map f := rfl
    exact ⟨by simp [named', named, Except.map], passed⟩

/-- Two parts of a record, one written behind the other. -/
theorem Agrees.ap {g : Layout ν (α → β)} {l : Layout ν α} {es₁ es₂ : List (String × Json)}
    {f : α → β} {a : α} (first : Agrees g es₁ f) (second : Agrees l es₂ a) :
    Agrees (g <*> l) (es₁ ++ es₂) (f a) where
  written := by simpa using first.written.append second.written
  neat e he := (List.mem_append.1 he).elim (first.neat e) (second.neat e)
  reads once ves shown := by
    have fields : (g <*> l).fields = g.fields ++ l.fields := rfl
    have named : (g <*> l).named ves = (do
      let f ← g.named ves
      let a ← l.named ves
      return f a) := rfl
    rw [names_ap] at once
    -- No name of one part is a name of the other, so each finds the entries of its own fields only.
    obtain ⟨once₁, once₂, apart⟩ := List.nodup_append.1 once
    have shown₁ : ∀ x ∈ g.fields, Option.Rel Presents (lookUp x.1 ves) (lookUp x.1 es₁) := by
      intro x hx
      have both := shown x (List.mem_append.2 (.inl hx))
      have elsewhere : lookUp x.1 es₂ = none := lookUp_eq_none_iff.2 fun here =>
        apart _ (List.mem_map_of_mem hx) _ (second.written.subset here) rfl
      rwa [lookUp_append, elsewhere, Option.or_none] at both
    have shown₂ : ∀ x ∈ l.fields, Option.Rel Presents (lookUp x.1 ves) (lookUp x.1 es₂) := by
      intro x hx
      have both := shown x (List.mem_append.2 (.inr hx))
      have elsewhere : lookUp x.1 es₁ = none := lookUp_eq_none_iff.2 fun here =>
        apart _ (first.written.subset here) _ (List.mem_map_of_mem hx) rfl
      rwa [lookUp_append, elsewhere, Option.none_or] at both
    obtain ⟨named₁, passed₁⟩ := first.reads once₁ ves shown₁
    obtain ⟨named₂, passed₂⟩ := second.reads once₂ ves shown₂
    refine ⟨by rw [named, named₁, named₂]; rfl, fun x hx => ?_⟩
    rw [fields] at hx
    exact (List.mem_append.1 hx).elim (passed₁ x) (passed₂ x)

/-- Entries of different keys pass, if what is known decodes and what is not known has no fault; and
what is known is kept. -/
theorem check_of_distinct {fields : List (String × (ν → Decoded Unit))} {seen : List String}
    {es : List (String × ν)} (once : (es.map (·.1)).Nodup) (unseen : ∀ e ∈ es, e.1 ∉ seen)
    (known : ∀ e ∈ es, ∀ f, fields.find? (·.1 = e.1) = some f → f.2 e.2 = .ok ())
    (passed : ∀ e ∈ es, fields.find? (·.1 = e.1) = none → Source.pass e.2 = none) :
    check fields seen (es.map fun e => (.ok e.1, e.2)) =
      .ok (es.filter fun e => (fields.find? (·.1 = e.1)).isSome) := by
  induction es generalizing seen with
  | nil => rfl
  | cons e es ih =>
    obtain ⟨first, others⟩ := List.nodup_cons.1 once
    have known' := fun x hx => known x (.tail _ hx)
    have passed' := fun x hx => passed x (.tail _ hx)
    rw [List.map_cons, List.filter_cons]
    cases found : fields.find? (·.1 = e.1) with
    | none =>
      have rest := ih others (fun x hx => unseen x (.tail _ hx)) known' passed'
      simp [check, Except.mapError, found, passed e (.head _) found, faultless, rest, bind,
        Except.bind]
    | some f =>
      have still : ∀ x ∈ es, x.1 ∉ e.1 :: seen := by
        intro x hx
        rw [List.mem_cons, not_or]
        refine ⟨fun same => ?_, unseen x (.tail _ hx)⟩
        exact first (List.mem_map.2 ⟨x, hx, same⟩)
      have rest := ih others still known' passed'
      simp [check, Except.mapError, found, unseen e (.head _), known e (.head _) f found, rest,
        bind, Except.bind, pure, Except.pure]

/-- A record is decoded from whatever presents its entries. -/
theorem Agrees.decode {l : Layout ν α} {es : List (String × Json)} {a : α}
    (agrees : Agrees l es a) (once : l.names.Nodup) {v : ν}
    (shown : Presents v (.obj es)) (name : String) : l.decode name v = .ok a := by
  cases shown with
  | @obj _ ves _ seen distinct each =>
    obtain ⟨named, passed⟩ := agrees.reads once ves fun f _ => each f.1
    -- Every key that is presented was written, and so is one that the record knows.
    have known : ∀ e ∈ ves, ∃ f, l.fields.find? (·.1 = e.1) = some f ∧ f.2 e.2 = .ok () := by
      intro e he
      have here : lookUp e.1 ves = some e.2 := lookUp_of_mem distinct he
      have written : e.1 ∈ es.map (·.1) := by
        by_contra absent
        have missing := eq_none_of_rel_none (lookUp_eq_none_iff.2 absent ▸ each e.1)
        rw [missing] at here
        cases here
      obtain ⟨f, hf, found, same⟩ := find?_of_mem_names (agrees.written.subset written)
      exact ⟨f, found, passed f hf e.2 (same ▸ here)⟩
    have kept : ves.filter (fun e => (l.fields.find? (·.1 = e.1)).isSome) = ves := by
      refine List.filter_eq_self.2 fun e he => ?_
      obtain ⟨f, found, -⟩ := known e he
      rw [found]
      rfl
    have checked : check l.fields [] (ves.map fun e => (.ok e.1, e.2)) = .ok ves := by
      rw [check_of_distinct distinct (fun _ _ => List.not_mem_nil), kept]
      · intro e he f found
        obtain ⟨f', found', decoded⟩ := known e he
        cases found.symm.trans found'
        exact decoded
      · intro e he unknown
        obtain ⟨f, found, -⟩ := known e he
        cases unknown.symm.trans found
    simp [Layout.decode, seen, checked, faultless, named, bind, Except.bind]

/-- Nothing is ever decoded by a layout that it does not make. -/
theorem Always.decode {l : Layout ν α} {P : α → Prop} (always : l.Always P) {name : String}
    {v : ν} {a : α} (decoded : l.decode name v = .ok a) : P a := by
  unfold Layout.decode at decoded
  split at decoded
  · obtain ⟨ves, -, decoded⟩ := ok_of_bind decoded
    obtain ⟨-, -, made⟩ := ok_of_bind decoded
    exact always.named ves a made
  · obtain ⟨a', made, decoded⟩ := ok_of_bind decoded
    dsimp only at decoded
    split at decoded
    · cases decoded
    · obtain ⟨-, -, same⟩ := ok_of_bind decoded
      cases same
      exact always.placed _ _ a made
  · cases decoded
  · cases decoded

end Layout

/-- A record is faithful if its layout agrees with the entries that are written for it. -/
theorem Faithful.record {encode : α → Json} {kept : α → α} {l : Layout ν α} {name : String}
    (once : l.names.Nodup)
    (agrees : ∀ a, ∃ es a', encode a = .obj es ∧ kept a = a' ∧ l.Agrees es a')
    (settled : ∀ v a, l.decode name v = .ok a → kept a = a) :
    Faithful encode (l.decode name) kept where
  neat a := by
    obtain ⟨es, _, written, _, agree⟩ := agrees a
    rw [written]
    exact .obj (agree.written.nodup once) agree.neat
  solid a := by
    obtain ⟨es, _, written, _⟩ := agrees a
    rw [written]
    exact Json.noConfusion
  reads a v shown := by
    obtain ⟨es, a', written, same, agree⟩ := agrees a
    rw [written] at shown
    rw [same]
    exact agree.decode once shown name
  settled := settled

end

/-! ## There and back -/

section
variable {α : Type}

/-- In every form in which the document of the first value is held, it is decoded as the second. -/
structure Restored (encode : α → Json) (decode : {ν : Type} → [Source ν] → ν → Decoded α)
    (x y : α) : Prop where
  /-- As it was written. -/
  document : decode (encode x) = .ok y
  /-- With the keys of its objects in ascending order. -/
  ordered : decode (encode x).sorted = .ok y
  /-- As a text. -/
  text : ∃ d, Draft.read (compact (encode x)) = (d, none) ∧ decode d = .ok y

/-- Values are written and decoded without loss but for what is not kept, and nothing is lost of a
value that was decoded from any document or text. -/
structure RoundTrips (encode : α → Json) (decode : {ν : Type} → [Source ν] → ν → Decoded α)
    (kept : α → α) : Prop where
  restored : ∀ x, Restored encode decode x (kept x)
  again : ∀ {ν : Type} [Source ν] (v : ν) (x : α), decode v = .ok x → Restored encode decode x x

theorem Faithful.roundTrips {encode : α → Json}
    {decode : {ν : Type} → [Source ν] → ν → Decoded α} {kept : α → α}
    (codec : ∀ {ν : Type} [Source ν], Faithful encode (decode (ν := ν)) kept) :
    RoundTrips encode decode kept := by
  have restored (x : α) : Restored encode decode x (kept x) := by
    have neat : Neat (encode x) := (codec (ν := Json)).neat x
    exact ⟨codec.reads x _ (presents_self neat), codec.reads x _ (presents_sorted neat),
      _, Draft.read_compact neat.whole, codec.reads x _ (presents_ofJson neat)⟩
  refine ⟨restored, fun v x decoded => ?_⟩
  have same := restored x
  rwa [codec.settled v x decoded] at same

end

end Delegation.Json
