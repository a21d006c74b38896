import Delegation.Proofs.Codec

/-!
# Records whose fields may be left out

A record is decoded from the fields that a value gives it: the entries of an object, or the items
of an array, by their places. If each field may be left out, nothing else matters: the record is
made if those of its fields decode that are given, and a field that is not given has its default
(`Layout.Makes`). This is shown for single fields and for the ways of putting layouts together, so
a record is dealt with in the shape in which its layout is written.
-/

namespace Delegation.Json

section
variable {ν α β : Type}

/-- Entries under their keys, if all of those are texts. -/
def keyed : List (Except Fault String × ν) → Option (List (String × ν))
  | [] => some []
  | (.ok k, v) :: rest => (keyed rest).map ((k, v) :: ·)
  | (.error _, _) :: _ => none

theorem keyed_eq_some_iff {entries : List (Except Fault String × ν)} {es : List (String × ν)} :
    keyed entries = some es ↔ entries = es.map fun e => (.ok e.1, e.2) := by
  induction entries generalizing es with
  | nil => cases es <;> simp [keyed]
  | cons e entries ih =>
    obtain ⟨key, v⟩ := e
    cases key with
    | error fault => cases es <;> simp [keyed]
    | ok k => cases es <;> simp [keyed, ih, Prod.ext_iff, eq_comm (a := k), eq_comm (a := v),
        and_comm]

@[simp] theorem keyed_map_ok (es : List (String × ν)) :
    keyed (es.map fun e => ((.ok e.1 : Except Fault String), e.2)) = some es :=
  keyed_eq_some_iff.2 rfl

theorem filterMap_ok (es : List (String × ν)) :
    (es.map fun e => ((.ok e.1 : Except Fault String), e.2)).filterMap (fun e => e.1.toOption) =
      es.map (·.1) := by
  rw [List.filterMap_map, ← List.filterMap_eq_map]
  rfl

theorem lookUp_filter {p : String → Bool} {k : String} (hk : p k = true)
    (es : List (String × ν)) : lookUp k (es.filter fun e => p e.1) = lookUp k es := by
  induction es with
  | nil => rfl
  | cons e es ih =>
    by_cases same : e.1 = k
    · rw [List.filter_cons_of_pos (by rw [same, hk]), lookUp_cons, lookUp_cons, if_pos same,
        if_pos same]
    · rw [lookUp_cons, if_neg same, List.filter_cons]
      split
      · rw [lookUp_cons, if_neg same, ih]
      · exact ih

/-- Names that stand one behind the other take items one behind the other. -/
theorem zip_append (ks₁ ks₂ : List String) (vs : List ν) :
    (ks₁ ++ ks₂).zip vs = ks₁.zip vs ++ ks₂.zip (vs.drop ks₁.length) := by
  induction ks₁ generalizing vs with
  | nil => rfl
  | cons k ks ih =>
    cases vs with
    | nil => simp
    | cons v vs => simp [ih]

theorem lookUp_zip_eq_none {k : String} {ks : List String} {vs : List ν} (unknown : k ∉ ks) :
    lookUp k (ks.zip vs) = none := by
  rw [lookUp_eq_none_iff]
  intro there
  obtain ⟨e, he, rfl⟩ := List.mem_map.1 there
  exact unknown (List.of_mem_zip he).1

/-- If the field is given, then it decodes. -/
def Valid (fields : List (String × ν)) (name : String) (decode : ν → Decoded α) : Prop :=
  ∀ v, lookUp name fields = some v → ∃ a, decode v = .ok a

instance (fields : List (String × ν)) (name : String) (decode : ν → Decoded α) :
    Decidable (Valid fields name decode) :=
  decidable_of_iff (∀ v ∈ lookUp name fields, (decode v).isOk = true) <|
    forall₂_congr fun v _ => by cases decode v <;> simp [Except.isOk, Except.toBool]

@[simp] theorem valid_nil (name : String) (decode : ν → Decoded α) : Valid [] name decode := by
  intro v found
  cases found

/-- What a field says. -/
def given? (fields : List (String × ν)) (name : String) (decode : ν → Decoded α) : Option α :=
  (lookUp name fields).bind fun v => (decode v).toOption

namespace Layout

/-! ## What a layout makes -/

/-- Only the names of the record are kept, so the same is found under them. -/
theorem lookUp_known (l : Layout ν α) {k : String} (hk : k ∈ l.names) (es : List (String × ν)) :
    lookUp k (es.filter fun e => (l.fields.find? (·.1 = e.1)).isSome) = lookUp k es := by
  obtain ⟨f, -, found, -⟩ := find?_of_mem_names hk
  exact lookUp_filter (p := fun k => (l.fields.find? (·.1 = k)).isSome) (by rw [found]; rfl) es

/-- The layout makes a record of the fields that are given, and of nothing else: `valid` says when,
and `made` what. -/
structure Makes (l : Layout ν α) (valid : List (String × ν) → Prop)
    (made : List (String × ν) → α) : Prop where
  named_iff : ∀ es a, l.named es = .ok a ↔ valid es ∧ a = made es
  /-- What is valid passes on the way. -/
  decodes : ∀ es, valid es → ∀ f ∈ l.fields, ∀ v, lookUp f.1 es = some v → f.2 v = .ok ()
  /-- Other fields do not matter. -/
  own : ∀ es es' : List (String × ν), (∀ k ∈ l.names, lookUp k es = lookUp k es') →
    l.named es = l.named es'
  /-- An array stands for the fields in their order. -/
  placed : l.names.Nodup → ∀ (items : List ν) (expected : String) (i : Nat),
    l.placed ⟨items, none, expected⟩ i = l.named (l.names.zip (items.drop i))

theorem makes_defaulted (name : String) (decode : ν → Decoded α) (value : α) :
    Makes (defaulted name decode value) (Valid · name decode)
      fun es => (given? es name decode).getD value where
  named_iff es a := by
    simp only [defaulted, field, Valid, given?]
    cases lookUp name es with
    | none => simp [eq_comm]
    | some v => cases decoded : decode v <;> simp [decoded, Except.toOption, eq_comm]
  decodes es valid f hf v found := by
    cases List.mem_singleton.1 hf
    obtain ⟨a, decoded⟩ := valid v found
    simp [checked, decoded, Except.map]
  own es es' same := by
    simp only [defaulted, field, same name (.head _)]
  placed once items expected i := by
    have same : lookUp name ([name].zip (items.drop i)) = items[i]? := by
      rw [← List.head?_drop]
      cases items.drop i with
      | nil => rfl
      | cons v rest => simp [lookUp]
    simp only [defaulted, field, Row.item, names, List.map_cons, List.map_nil, same]
    cases items[i]? <;> rfl

theorem Makes.map {l : Layout ν α} {valid : List (String × ν) → Prop}
    {made : List (String × ν) → α} (makes : Makes l valid made) (f : α → β) :
    Makes (f <$> l) valid fun es => f (made es) where
  named_iff es b := by
    have named : (f <$> l).named es = (l.named es).map f := rfl
    rw [named]
    constructor
    · intro mapped
      obtain ⟨a, ha, rfl⟩ := ok_of_map mapped
      obtain ⟨holds, rfl⟩ := (makes.named_iff es a).1 ha
      exact ⟨holds, rfl⟩
    · rintro ⟨holds, rfl⟩
      rw [(makes.named_iff es _).2 ⟨holds, rfl⟩]
      rfl
  decodes := makes.decodes
  own es es' same := congrArg (Except.map f) (makes.own es es' same)
  placed once items expected i := congrArg (Except.map f) (makes.placed once items expected i)

theorem Makes.ap {g : Layout ν (α → β)} {l : Layout ν α}
    {valid₁ valid₂ : List (String × ν) → Prop} {made₁ : List (String × ν) → α → β}
    {made₂ : List (String × ν) → α} (first : Makes g valid₁ made₁) (second : Makes l valid₂ made₂) :
    Makes (g <*> l) (fun es => valid₁ es ∧ valid₂ es) fun es => made₁ es (made₂ es) where
  named_iff es b := by
    have named : (g <*> l).named es = (do
      let f ← g.named es
      let a ← l.named es
      return f a) := rfl
    rw [named]
    constructor
    · intro made
      obtain ⟨f, a, hf, ha, rfl⟩ := ok_of_ap made
      obtain ⟨holds₁, rfl⟩ := (first.named_iff es f).1 hf
      obtain ⟨holds₂, rfl⟩ := (second.named_iff es a).1 ha
      exact ⟨⟨holds₁, holds₂⟩, rfl⟩
    · rintro ⟨⟨holds₁, holds₂⟩, rfl⟩
      rw [(first.named_iff es _).2 ⟨holds₁, rfl⟩, (second.named_iff es _).2 ⟨holds₂, rfl⟩]
      rfl
  decodes es valid x hx := by
    have fields : (g <*> l).fields = g.fields ++ l.fields := rfl
    rw [fields] at hx
    exact (List.mem_append.1 hx).elim (first.decodes es valid.1 x) (second.decodes es valid.2 x)
  own es es' same := by
    rw [names_ap] at same
    have same₁ := first.own es es' fun k hk => same k (List.mem_append_left _ hk)
    have same₂ := second.own es es' fun k hk => same k (List.mem_append_right _ hk)
    show (do let f ← g.named es; let a ← l.named es; return f a) =
      (do let f ← g.named es'; let a ← l.named es'; return f a)
    rw [same₁, same₂]
  placed once items expected i := by
    rw [names_ap] at once ⊢
    obtain ⟨once₁, once₂, apart⟩ := List.nodup_append.1 once
    have placed₁ : g.placed ⟨items, none, expected⟩ i =
        g.named ((g.names ++ l.names).zip (items.drop i)) := by
      rw [first.placed once₁]
      refine first.own _ _ fun k hk => ?_
      rw [zip_append, lookUp_append, lookUp_zip_eq_none fun there => apart k hk k there rfl,
        Option.or_none]
    have placed₂ : l.placed ⟨items, none, expected⟩ (i + g.fields.length) =
        l.named ((g.names ++ l.names).zip (items.drop i)) := by
      have length : g.fields.length = g.names.length := (List.length_map _).symm
      rw [second.placed once₂]
      refine second.own _ _ fun k hk => ?_
      rw [zip_append, lookUp_append, lookUp_zip_eq_none fun there => apart k there k hk rfl,
        Option.none_or, List.drop_drop, length]
    show (do
        let f ← g.placed ⟨items, none, expected⟩ i
        let a ← l.placed ⟨items, none, expected⟩ (i + g.fields.length)
        return f a) = (do
        let f ← g.named ((g.names ++ l.names).zip (items.drop i))
        let a ← l.named ((g.names ++ l.names).zip (items.drop i))
        return f a)
    rw [placed₁, placed₂]

end Layout

end

section
variable {ν : Type} [Source ν] {α : Type}

/-- The fields that a value gives a record with these names, if it gives any. Of an array each item
is the field in its place, and there must not be too many of them. -/
def fields? (names : List String) (v : ν) : Option (List (String × ν)) :=
  match Source.view v with
  | .map entries _ => keyed entries
  | .seq items _ => if items.length ≤ names.length then some (names.zip items) else none
  | _ => none

/-- The fields that are given of a record which is itself a field; none of them if it is not
given. -/
def part? (fields : List (String × ν)) (name : String) (names : List String) :
    Option (List (String × ν)) :=
  match lookUp name fields with
  | some v => fields? names v
  | none => some []

/-- Nothing is wrong with the outermost layer: no key stands in it twice, and nothing is at fault
in its entries. -/
def Plain (v : ν) : Prop :=
  match Source.view v with
  | .map entries ending =>
    ending = none ∧ (∀ e ∈ entries, Source.pass e.2 = none) ∧
      (entries.filterMap fun e => e.1.toOption).Nodup
  | .seq _ ending => ending = none
  | _ => True

namespace Layout

/-! ## Going through the entries -/

/-- Entries that were gone through had keys, and those that are known were kept. -/
theorem check_eq_ok {fields : List (String × (ν → Decoded Unit))} {seen : List String}
    {entries : List (Except Fault String × ν)} {found : List (String × ν)}
    (checked : check fields seen entries = .ok found) :
    ∃ es, keyed entries = some es ∧
      found = es.filter fun e => (fields.find? (·.1 = e.1)).isSome := by
  induction entries generalizing seen found with
  | nil =>
    cases checked
    exact ⟨[], rfl, rfl⟩
  | cons e entries ih =>
    obtain ⟨key, v⟩ := e
    cases key with
    | error fault => cases checked
    | ok k =>
      rw [check] at checked
      obtain ⟨_, same, checked⟩ := ok_of_bind checked
      cases same
      split at checked
      · rename_i known
        split at checked
        · cases checked
        · obtain ⟨-, -, checked⟩ := ok_of_bind checked
          obtain ⟨rest, hr, same⟩ := ok_of_bind checked
          cases same
          obtain ⟨es, keys, rfl⟩ := ih hr
          refine ⟨(k, v) :: es, by rw [keyed, keys]; rfl, ?_⟩
          rw [List.filter_cons, if_pos (by rw [known]; rfl)]
      · rename_i unknown
        obtain ⟨-, -, checked⟩ := ok_of_bind checked
        obtain ⟨es, keys, rfl⟩ := ih checked
        refine ⟨(k, v) :: es, by rw [keyed, keys]; rfl, ?_⟩
        rw [List.filter_cons, if_neg (by rw [unknown]; exact Bool.false_ne_true)]

/-! ## Whole records -/

variable {l : Layout ν α} {valid : List (String × ν) → Prop} {made : List (String × ν) → α}

/-- What was decoded was made of the fields that are given. -/
theorem Makes.of_decode (makes : Makes l valid made) (once : l.names.Nodup) {name : String} {v : ν}
    {a : α} (decoded : l.decode name v = .ok a) :
    ∃ es, fields? l.names v = some es ∧ valid es ∧ a = made es := by
  unfold Layout.decode at decoded
  unfold fields?
  split at decoded
  · rename_i entries ending seen
    obtain ⟨found, passed, decoded⟩ := ok_of_bind decoded
    obtain ⟨-, -, named⟩ := ok_of_bind decoded
    obtain ⟨es, keys, rfl⟩ := check_eq_ok passed
    rw [seen]
    refine ⟨es, keys, (makes.named_iff _ a).1 ?_⟩
    rw [← named]
    exact makes.own _ _ fun k hk => (l.lookUp_known hk _).symm
  · rename_i items ending seen
    obtain ⟨a', placed, decoded⟩ := ok_of_bind decoded
    dsimp only at decoded
    split at decoded
    · cases decoded
    · rename_i fits
      obtain ⟨_, ended, same⟩ := ok_of_bind decoded
      cases same
      cases ending with
      | some fault => cases ended
      | none =>
        rw [makes.placed once, List.drop_zero] at placed
        have length : l.fields.length = l.names.length := (List.length_map _).symm
        rw [length, Nat.not_lt] at fits
        rw [seen]
        exact ⟨_, if_pos fits, (makes.named_iff _ a).1 placed⟩
  · cases decoded
  · cases decoded

/-- A plain value is decoded exactly if the fields that it gives are valid. -/
theorem Makes.decode_iff (makes : Makes l valid made) (once : l.names.Nodup) {name : String} {v : ν}
    {a : α} (plain : Plain v) :
    l.decode name v = .ok a ↔ ∃ es, fields? l.names v = some es ∧ valid es ∧ a = made es := by
  refine ⟨makes.of_decode once, ?_⟩
  rintro ⟨es, given, holds, rfl⟩
  unfold fields? at given
  unfold Plain at plain
  unfold Layout.decode
  split at given
  · rename_i entries ending seen
    rw [seen] at plain ⊢
    obtain ⟨rfl, passed, distinct⟩ := plain
    obtain rfl := keyed_eq_some_iff.1 given
    rw [filterMap_ok] at distinct
    rw [List.forall_mem_map] at passed
    have named := (makes.named_iff es _).2 ⟨holds, rfl⟩
    have known : ∀ e ∈ es, ∀ f, l.fields.find? (·.1 = e.1) = some f → f.2 e.2 = .ok () := by
      intro e he f found
      have same : f.1 = e.1 := by simpa using List.find?_some found
      refine makes.decodes es holds f (List.mem_of_find?_eq_some found) e.2 ?_
      rw [same]
      exact lookUp_of_mem distinct he
    rw [makes.own es _ fun k hk => (l.lookUp_known hk es).symm] at named
    dsimp only
    rw [check_of_distinct distinct (fun _ _ => List.not_mem_nil) known fun e he _ => passed e he]
    exact named
  · rename_i items ending seen
    rw [seen] at plain ⊢
    cases plain
    split at given
    · rename_i fits
      cases given
      have length : l.fields.length = l.names.length := (List.length_map _).symm
      have placed := makes.placed once items (expectedRecord name l.fields.length) 0
      rw [List.drop_zero, (makes.named_iff _ _).2 ⟨holds, rfl⟩] at placed
      dsimp only
      rw [placed, length]
      simp [Nat.not_lt.2 fits, faultless, bind, Except.bind, pure, Except.pure]
    · cases given
  · cases given

end Layout

/-! ## Records in records -/

/-- From a plain value, a record is made of the fields that are given of it, if they are valid. None
has to be given. -/
structure Reads (decode : ν → Decoded α) (names : List String) (valid : List (String × ν) → Prop)
    (made : List (String × ν) → α) : Prop where
  decode_iff : ∀ {v : ν} {a : α}, Plain v →
    (decode v = .ok a ↔ ∃ es, fields? names v = some es ∧ valid es ∧ a = made es)
  empty : valid []

section
variable {decode : ν → Decoded α} {names : List String} {valid : List (String × ν) → Prop}
  {made : List (String × ν) → α} {l : Layout ν α} {fields es : List (String × ν)} {name : String}

theorem Layout.Makes.reads (makes : l.Makes valid made) (once : l.names.Nodup) (empty : valid [])
    (record : String) : Reads (l.decode record) l.names valid made :=
  ⟨makes.decode_iff once, empty⟩

theorem Reads.valid_iff (reads : Reads decode names valid made)
    (plain : ∀ v, lookUp name fields = some v → Plain v) :
    Valid fields name decode ↔ ∃ es, part? fields name names = some es ∧ valid es := by
  unfold Valid part?
  cases there : lookUp name fields with
  | none => simpa using reads.empty
  | some v =>
    simp only [Option.some.injEq, forall_eq', reads.decode_iff (plain v there)]
    constructor
    · rintro ⟨_, es, given, holds, -⟩
      exact ⟨es, given, holds⟩
    · rintro ⟨es, given, holds⟩
      exact ⟨_, es, given, holds, rfl⟩

/-- The record is made of the fields that are given of it. -/
theorem Reads.given_eq (reads : Reads decode names valid made)
    (plain : ∀ v, lookUp name fields = some v → Plain v)
    (part : part? fields name names = some es) (holds : valid es) :
    (given? fields name decode).getD (made []) = made es := by
  unfold part? at part
  unfold given?
  split at part
  · rename_i v there
    have decoded : decode v = .ok (made es) :=
      (reads.decode_iff (plain v there)).2 ⟨es, part, holds, rfl⟩
    rw [there, Option.bind_some, decoded]
    rfl
  · rename_i absent
    cases part
    rw [absent]
    rfl

end

end

end Delegation.Json
