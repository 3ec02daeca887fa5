import MethodBinding.Attribute.Properties
import MethodBinding.Proofs.Descriptor.Entries

/-!
# Properties are read exactly

`Item.Gives` says which items give a property, and with what value. A list of items is in order
(`Acceptable`) if each of them gives a property, and no key occurs twice that may occur once only.
What such a list comes to can be told without going through it in order (`Properties.Records`).

One item is taken up if it gives a property that may still be given (`Properties.add_eq_ok_iff`).
From this, by induction from the last item, what is read from a list records it, and every list that
is in order is read (`properties_exact`). The order of the items matters only among other names.
-/

namespace MethodBinding.Attribute

open Code

/-- A property and its value. -/
inductive Property where
  | name (s : StringLiteral)
  | required (count : List Token)
  | optional (count : List Token)
  | rest
  | checkArity (enabled : Bool)
  | visibility (v : DeclaredVisibility)
  | moduleScope
  | metaScope
  | tag (s : StringLiteral)
  | otherName (s : StringLiteral)

def Property.key : Property → String
  | name _ => "name"
  | required _ => "required"
  | optional _ => "optional"
  | rest => "rest"
  | checkArity _ => "check_arity"
  | visibility _ => "visibility"
  | moduleScope => "module"
  | metaScope => "meta"
  | tag _ => "compat"
  | otherName _ => "alias"

theorem Property.forall_iff {P : Property → Prop} :
    (∀ x, P x) ↔ (∀ s, P (.name s)) ∧ (∀ n, P (.required n)) ∧ (∀ n, P (.optional n)) ∧ P .rest ∧
      (∀ b, P (.checkArity b)) ∧ (∀ v, P (.visibility v)) ∧ P .moduleScope ∧ P .metaScope ∧
      (∀ s, P (.tag s)) ∧ ∀ s, P (.otherName s) := by
  constructor
  · intro h
    exact ⟨fun _ => h _, fun _ => h _, fun _ => h _, h _, fun _ => h _, fun _ => h _, h _, h _,
      fun _ => h _, fun _ => h _⟩
  · rintro ⟨hname, hrequired, hoptional, hrest, hcheck, hvisibility, hmodule, hmeta, htag, hother⟩ x
    cases x <;> apply_assumption

/-- The keys that may occur once only. -/
def onceKeys : List String :=
  ["name", "required", "optional", "check_arity", "visibility", "compat"]

/-- The key of an item, unless a longer path stands in its place. -/
def Item.key? (item : Item) : Option String :=
  match item.isGlobal, item.path with
  | false, [key] => some key
  | _, _ => none

/-- The items that give a property. -/
inductive Item.Gives : Item → Property → Prop where
  | name (s : StringLiteral) : Gives ⟨false, ["name"], .value (.text s)⟩ (.name s)
  | required (count : List Token) :
    Gives ⟨false, ["required"], .value (.count count)⟩ (.required count)
  | optional (count : List Token) :
    Gives ⟨false, ["optional"], .value (.count count)⟩ (.optional count)
  | rest : Gives ⟨false, ["rest"], .absent⟩ .rest
  | checkArity (enabled : Bool) :
    Gives ⟨false, ["check_arity"], .value (.boolean enabled)⟩ (.checkArity enabled)
  | visibility {v : DeclaredVisibility} (h : v ≠ .unset) :
    Gives ⟨false, ["visibility"], .value (.word v.name)⟩ (.visibility v)
  | moduleScope : Gives ⟨false, ["module"], .absent⟩ .moduleScope
  | metaScope : Gives ⟨false, ["meta"], .absent⟩ .metaScope
  | tag (s : StringLiteral) : Gives ⟨false, ["compat"], .value (.text s)⟩ (.tag s)
  | otherName (s : StringLiteral) : Gives ⟨false, ["alias"], .value (.text s)⟩ (.otherName s)

namespace Properties

variable {p q : Properties} {item : Item} {x y : Property}

/-! ## What properties hold -/

/-- A property has been given. -/
def Has (p : Properties) : Property → Prop
  | .name s => p.name = some s
  | .required count => p.required = some count
  | .optional count => p.optional = some count
  | .rest => p.rest = true
  | .checkArity enabled => p.checkArity = some enabled
  | .visibility v => p.visibility = some v
  | .moduleScope => p.moduleScope = true
  | .metaScope => p.metaScope = true
  | .tag s => p.tag = some s
  | .otherName s => s ∈ p.aliases

/-- A property may still be given. -/
def Free (p : Properties) : Property → Prop
  | .name _ => p.name = none
  | .required _ => p.required = none
  | .optional _ => p.optional = none
  | .checkArity _ => p.checkArity = none
  | .visibility _ => p.visibility = none
  | .tag _ => p.tag = none
  | _ => True

/-- The properties with one more. -/
def give (p : Properties) : Property → Properties
  | .name s => { p with name := some s }
  | .required count => { p with required := some count }
  | .optional count => { p with optional := some count }
  | .rest => { p with rest := true }
  | .checkArity enabled => { p with checkArity := some enabled }
  | .visibility v => { p with visibility := some v }
  | .moduleScope => { p with moduleScope := true }
  | .metaScope => { p with metaScope := true }
  | .tag s => { p with tag := some s }
  | .otherName s => { p with aliases := p.aliases ++ [s] }

theorem not_has_default : ¬({} : Properties).Has x := by
  cases x <;> simp [Has]

theorem has_give (hfree : p.Free x) : (p.give x).Has y ↔ p.Has y ∨ x = y := by
  cases x with
  | otherName s =>
    cases y with
    | otherName t => simp [Has, give, eq_comm (a := s)]
    | _ => simp [Has, give]
  | _ => cases y <;> simp_all [Has, Free, give]

theorem free_iff : p.Free x ↔ (x.key ∈ onceKeys → ∀ y : Property, y.key = x.key → ¬p.Has y) := by
  cases x <;>
    simp [Property.forall_iff, Property.key, onceKeys, Free, Has,
      Option.eq_none_iff_forall_ne_some]

/-! ## Taking up an item -/

section
variable {α : Type} {key : String} {earlier : Option α} {argument : Argument}
  {read : PropertyValue → Except PropertyError α}

theorem value?_eq_ok_iff {v : PropertyValue} : argument.value? = .ok v ↔ argument = .value v := by
  cases argument <;> simp [Argument.value?]

/-- A property that may be given once is taken up if it has not been given, and its value is of the
kind. -/
theorem readOnce_bind_eq_ok_iff {f : Option α → Properties} :
    (do return f (← readOnce key earlier argument read)) = Except.ok q ↔
      earlier = none ∧ ∃ v a, argument = .value v ∧ read v = .ok a ∧ q = f (some a) := by
  constructor
  · intro h
    obtain ⟨o, ho, hq⟩ := except_bind_eq_ok_iff.1 h
    unfold readOnce at ho
    split at ho
    · cases ho
    next hnew =>
      obtain ⟨v, hv, ho⟩ := except_bind_eq_ok_iff.1 ho
      obtain ⟨a, ha, ho⟩ := except_bind_eq_ok_iff.1 ho
      cases ho
      cases hq
      exact ⟨by simpa using hnew, v, a, value?_eq_ok_iff.1 hv, ha, rfl⟩
  · rintro ⟨rfl, v, a, rfl, ha, rfl⟩
    have hread : readOnce key none (.value v) read = .ok (some a) := by
      change some <$> read v = .ok (some a)
      rw [ha]
      rfl
    rw [hread]
    rfl

theorem readFlag_bind_eq_ok_iff {f : Bool → Properties} :
    (do return f (← readFlag argument)) = Except.ok q ↔ argument = .absent ∧ q = f true := by
  cases argument with
  | absent => simp [readFlag, pure, Except.pure, bind, Except.bind, eq_comm]
  | _ => simp [readFlag, bind, Except.bind]

theorem text?_eq_ok_iff {v : PropertyValue} {s : StringLiteral} :
    v.text? = .ok s ↔ v = .text s := by
  cases v <;> simp [PropertyValue.text?]

theorem boolean?_eq_ok_iff {v : PropertyValue} {b : Bool} :
    v.boolean? = .ok b ↔ v = .boolean b := by
  cases v <;> simp [PropertyValue.boolean?]

theorem count?_eq_ok_iff {v : PropertyValue} {count : List Token} :
    v.count? = .ok count ↔ v = .count count := by
  cases v <;> simp [PropertyValue.count?]

theorem visibility?_eq_ok_iff {v : PropertyValue} {declared : DeclaredVisibility} :
    v.visibility? = .ok declared ↔ declared ≠ .unset ∧ v = .word declared.name := by
  constructor
  · intro h
    unfold PropertyValue.visibility? at h
    split at h <;> cases h <;> exact ⟨by decide, rfl⟩
  · rintro ⟨hset, rfl⟩
    cases declared with
    | unset => exact absurd rfl hset
    | _ => rfl

end

/-- An item is taken up exactly if it gives a property that may still be given. -/
theorem add_eq_ok_iff :
    p.add item = .ok q ↔ ∃ x, item.Gives x ∧ p.Free x ∧ q = p.give x := by
  constructor
  · intro h
    unfold add at h
    split at h
    next key hglobal hpath =>
      obtain ⟨isGlobal, path, argument⟩ := item
      obtain rfl : isGlobal = false := hglobal
      obtain rfl : path = [key] := hpath
      unfold addProperty at h
      -- One case for each key, in the order of the properties, and one for all other words.
      split at h
      next =>
        obtain ⟨hfree, v, s, rfl, hv, rfl⟩ := readOnce_bind_eq_ok_iff.1 h
        obtain rfl := text?_eq_ok_iff.1 hv
        exact ⟨_, .name s, hfree, rfl⟩
      next =>
        obtain ⟨hfree, v, count, rfl, hv, rfl⟩ := readOnce_bind_eq_ok_iff.1 h
        obtain rfl := count?_eq_ok_iff.1 hv
        exact ⟨_, .required count, hfree, rfl⟩
      next =>
        obtain ⟨hfree, v, count, rfl, hv, rfl⟩ := readOnce_bind_eq_ok_iff.1 h
        obtain rfl := count?_eq_ok_iff.1 hv
        exact ⟨_, .optional count, hfree, rfl⟩
      next =>
        obtain ⟨rfl, rfl⟩ := readFlag_bind_eq_ok_iff.1 h
        exact ⟨_, .rest, trivial, rfl⟩
      next =>
        obtain ⟨hfree, v, enabled, rfl, hv, rfl⟩ := readOnce_bind_eq_ok_iff.1 h
        obtain rfl := boolean?_eq_ok_iff.1 hv
        exact ⟨_, .checkArity enabled, hfree, rfl⟩
      next =>
        obtain ⟨hfree, v, declared, rfl, hv, rfl⟩ := readOnce_bind_eq_ok_iff.1 h
        obtain ⟨hset, rfl⟩ := visibility?_eq_ok_iff.1 hv
        exact ⟨_, .visibility hset, hfree, rfl⟩
      next =>
        obtain ⟨rfl, rfl⟩ := readFlag_bind_eq_ok_iff.1 h
        exact ⟨_, .moduleScope, trivial, rfl⟩
      next =>
        obtain ⟨rfl, rfl⟩ := readFlag_bind_eq_ok_iff.1 h
        exact ⟨_, .metaScope, trivial, rfl⟩
      next =>
        obtain ⟨hfree, v, s, rfl, hv, rfl⟩ := readOnce_bind_eq_ok_iff.1 h
        obtain rfl := text?_eq_ok_iff.1 hv
        exact ⟨_, .tag s, hfree, rfl⟩
      next =>
        obtain ⟨v, harg, h⟩ := except_bind_eq_ok_iff.1 h
        obtain ⟨s, hs, h⟩ := except_bind_eq_ok_iff.1 h
        obtain rfl : argument = .value v := value?_eq_ok_iff.1 harg
        obtain rfl := text?_eq_ok_iff.1 hs
        cases h
        exact ⟨_, .otherName s, trivial, rfl⟩
      next => cases h
    next => cases h
  · rintro ⟨x, hx, hfree, rfl⟩
    cases hx with
    | rest | moduleScope | metaScope => exact readFlag_bind_eq_ok_iff.2 ⟨rfl, rfl⟩
    | visibility hset =>
      exact readOnce_bind_eq_ok_iff.2
        ⟨hfree, _, _, rfl, visibility?_eq_ok_iff.2 ⟨hset, rfl⟩, rfl⟩
    | otherName => rfl
    | _ => exact readOnce_bind_eq_ok_iff.2 ⟨hfree, _, _, rfl, rfl, rfl⟩

end Properties

/-! ## Lists of items -/

/-- A list of items is in order. -/
structure Acceptable (items : List Item) : Prop where
  gives : ∀ item ∈ items, ∃ x, item.Gives x
  once : ∀ key ∈ onceKeys, (items.filterMap Item.key?).count key ≤ 1

/-- The properties are those that the items give, with the other names in order. -/
structure Properties.Records (p : Properties) (items : List Item) : Prop where
  has : ∀ x, p.Has x ↔ ∃ item ∈ items, item.Gives x
  aliases : p.aliases.map (fun s => Argument.value (.text s)) =
    (items.filter (·.key? == some "alias")).map (·.argument)

section
variable {p q : Properties} {items : List Item} {item : Item} {x y : Property}

theorem Item.Gives.key?_eq (h : item.Gives x) : item.key? = some x.key := by
  cases h <;> rfl

/-- An item gives one property only, since it is taken up in one way only. -/
theorem Item.Gives.unique (hx : item.Gives x) (hy : item.Gives y) : x = y := by
  have hfree (z : Property) : ({} : Properties).Free z :=
    Properties.free_iff.2 fun _ _ _ => Properties.not_has_default
  have hsame : Except.ok (({} : Properties).give x) = Except.ok (({} : Properties).give y) :=
    (Properties.add_eq_ok_iff.2 ⟨x, hx, hfree x, rfl⟩).symm.trans
      (Properties.add_eq_ok_iff.2 ⟨y, hy, hfree y, rfl⟩)
  have hhas : (({} : Properties).give x).Has y :=
    Except.ok.inj hsame ▸ (Properties.has_give (hfree y)).2 (.inr rfl)
  exact ((Properties.has_give (hfree x)).1 hhas).resolve_left Properties.not_has_default

/-- One more item keeps a list in order if it gives a property that may be repeated, or no item has
its key. -/
theorem acceptable_concat (hx : item.Gives x) : Acceptable (items ++ [item]) ↔
    Acceptable items ∧ (x.key ∈ onceKeys → x.key ∉ items.filterMap Item.key?) := by
  have hkeys (key : String) : ((items ++ [item]).filterMap Item.key?).count key =
      (items.filterMap Item.key?).count key + if x.key = key then 1 else 0 := by
    rw [List.filterMap_append, List.count_append, List.filterMap_cons_some hx.key?_eq,
      List.filterMap_nil, List.count_singleton]
    simp
  constructor
  · intro h
    refine ⟨⟨fun i hi => h.gives i (List.mem_append_left _ hi), fun key hkey => ?_⟩,
      fun hkey hmem => ?_⟩
    · have hmany := h.once key hkey
      rw [hkeys] at hmany
      exact Nat.le_of_add_right_le hmany
    · have hmany := h.once x.key hkey
      have hone := List.one_le_count_iff.2 hmem
      rw [hkeys, if_pos rfl] at hmany
      omega
  · rintro ⟨h, hnew⟩
    constructor
    · intro i hi
      rcases List.mem_append.1 hi with hi | hi
      · exact h.gives i hi
      · obtain rfl := List.mem_singleton.1 hi
        exact ⟨x, hx⟩
    · intro key hkey
      rw [hkeys]
      split
      next hsame =>
        subst hsame
        simp [List.count_eq_zero.2 (hnew hkey)]
      next => exact h.once key hkey

namespace Properties

/-- Of a single property, no item has the key as long as it may still be given. -/
theorem Records.free_iff (hp : p.Records items) (h : Acceptable items) :
    p.Free x ↔ (x.key ∈ onceKeys → x.key ∉ items.filterMap Item.key?) := by
  rw [Properties.free_iff]
  refine forall_congr' fun _ => ?_
  constructor
  · intro hnone hmem
    obtain ⟨earlier, hearlier, hkey⟩ := List.mem_filterMap.1 hmem
    obtain ⟨y, hy⟩ := h.gives earlier hearlier
    rw [hy.key?_eq] at hkey
    exact hnone y (Option.some.inj hkey) ((hp.has y).2 ⟨earlier, hearlier, hy⟩)
  · intro hnew y hsame hhas
    obtain ⟨earlier, hearlier, hy⟩ := (hp.has y).1 hhas
    exact hnew (List.mem_filterMap.2 ⟨earlier, hearlier, by rw [hy.key?_eq, hsame]⟩)

theorem Records.give (hp : p.Records items) (hx : item.Gives x) (hfree : p.Free x) :
    (p.give x).Records (items ++ [item]) where
  has y := by
    rw [has_give hfree, hp.has]
    constructor
    · rintro (⟨earlier, hearlier, hy⟩ | rfl)
      · exact ⟨earlier, List.mem_append_left _ hearlier, hy⟩
      · exact ⟨item, by simp, hx⟩
    · rintro ⟨i, hi, hy⟩
      rcases List.mem_append.1 hi with hi | hi
      · exact .inl ⟨i, hi, hy⟩
      · obtain rfl := List.mem_singleton.1 hi
        exact .inr (hx.unique hy)
  aliases := by
    rw [List.filter_append, List.map_append, ← hp.aliases]
    cases hx <;> simp [Properties.give, Item.key?]

/-- Items are recorded in one way only. -/
theorem Records.unique (hp : p.Records items) (hq : q.Records items) : p = q := by
  have hhas (x : Property) : p.Has x ↔ q.Has x := (hp.has x).trans (hq.has x).symm
  have haliases : p.aliases = q.aliases := by
    refine List.map_injective_iff.2 ?_ (hp.aliases.trans hq.aliases.symm)
    intro s t hst
    cases hst
    rfl
  obtain ⟨⟩ := p
  obtain ⟨⟩ := q
  simp only [Properties.mk.injEq]
  exact ⟨Option.ext fun s => hhas (.name s), Option.ext fun n => hhas (.required n),
    Option.ext fun n => hhas (.optional n), Bool.eq_iff_iff.2 (hhas .rest),
    Option.ext fun b => hhas (.checkArity b), Option.ext fun v => hhas (.visibility v),
    Bool.eq_iff_iff.2 (hhas .moduleScope), Bool.eq_iff_iff.2 (hhas .metaScope),
    Option.ext fun s => hhas (.tag s), haliases⟩

theorem ofItems_concat : ofItems (items ++ [item]) = ofItems items >>= (·.add item) := by
  simp [ofItems, List.foldlM_append]

theorem records_of_ofItems (h : ofItems items = .ok p) : Acceptable items ∧ p.Records items := by
  -- From the last item on: what the items before it come to decides whether it may still be given.
  induction items using List.reverseRecOn generalizing p with
  | nil =>
    cases h
    refine ⟨⟨by simp, by simp⟩, fun x => ?_, rfl⟩
    simp [not_has_default]
  | append_singleton items item ih =>
    rw [ofItems_concat] at h
    obtain ⟨earlier, hearlier, hadd⟩ := except_bind_eq_ok_iff.1 h
    obtain ⟨hacc, hrec⟩ := ih hearlier
    obtain ⟨x, hx, hfree, rfl⟩ := add_eq_ok_iff.1 hadd
    exact ⟨(acceptable_concat hx).2 ⟨hacc, (hrec.free_iff hacc).1 hfree⟩, hrec.give hx hfree⟩

theorem exists_ofItems (h : Acceptable items) : ∃ p, ofItems items = .ok p := by
  induction items using List.reverseRecOn with
  | nil => exact ⟨{}, rfl⟩
  | append_singleton items item ih =>
    obtain ⟨x, hx⟩ := h.gives item (by simp)
    obtain ⟨hacc, hnew⟩ := (acceptable_concat hx).1 h
    obtain ⟨p, hp⟩ := ih hacc
    have hrec := (records_of_ofItems hp).2
    refine ⟨p.give x, ?_⟩
    rw [ofItems_concat, hp]
    exact add_eq_ok_iff.2 ⟨x, hx, (hrec.free_iff hacc).2 hnew, rfl⟩

theorem ofItems_eq_ok_iff : ofItems items = .ok p ↔ Acceptable items ∧ p.Records items := by
  constructor
  · exact records_of_ofItems
  · rintro ⟨hacc, hrec⟩
    obtain ⟨q, hq⟩ := exists_ofItems hacc
    rw [hrec.unique (records_of_ofItems hq).2, hq]

end Properties

/-! ## The order of items -/

theorem Acceptable.perm {items' : List Item} (h : Acceptable items) (hperm : items'.Perm items) :
    Acceptable items' where
  gives item hitem := h.gives item (hperm.mem_iff.1 hitem)
  once key hkey := by
    rw [(hperm.filterMap _).count_eq]
    exact h.once key hkey

theorem Properties.Records.perm {items' : List Item} (h : p.Records items)
    (hperm : items'.Perm items)
    (hnames : items'.filter (·.key? == some "alias") = items.filter (·.key? == some "alias")) :
    p.Records items' where
  has x := by simp only [h.has, hperm.mem_iff]
  aliases := by rw [h.aliases, hnames]

end

/-- **Properties are read exactly, in any order.** A list of items is read if and only if each of
them gives a property of its key, with a value of its kind, and no key of a single property occurs
twice. What is read is what the items give, with the other names in order. So an order of the items
that leaves the other names in order is read alike; only which problem is reported first may
differ. -/
theorem properties_exact (items : List Item) :
    (∀ p, Properties.ofItems items = .ok p ↔ Acceptable items ∧ p.Records items) ∧
    ((∃ p, Properties.ofItems items = .ok p) ↔ Acceptable items) ∧
    ∀ items' : List Item, items'.Perm items →
      items'.filter (·.key? == some "alias") = items.filter (·.key? == some "alias") →
      ∀ p, Properties.ofItems items' = .ok p ↔ Properties.ofItems items = .ok p := by
  refine ⟨fun p => Properties.ofItems_eq_ok_iff, ?_, fun items' hperm hnames p => ?_⟩
  · constructor
    · rintro ⟨p, hp⟩
      exact (Properties.ofItems_eq_ok_iff.1 hp).1
    · exact Properties.exists_ofItems
  · simp only [Properties.ofItems_eq_ok_iff]
    constructor
    · rintro ⟨hacc, hrec⟩
      exact ⟨hacc.perm hperm.symm, hrec.perm hperm.symm hnames.symm⟩
    · rintro ⟨hacc, hrec⟩
      exact ⟨hacc.perm hperm, hrec.perm hperm hnames⟩

def sizeNames : List Item :=
  [⟨false, ["alias"], .value (.text "length")⟩, ⟨false, ["alias"], .value (.text "count")⟩]

def sizeSettings : List Item :=
  [⟨false, ["rest"], .absent⟩, ⟨false, ["visibility"], .value (.word "protected")⟩]

theorem size_properties_exact :
    Acceptable (sizeNames ++ sizeSettings) ∧
    (sizeSettings ++ sizeNames).Perm (sizeNames ++ sizeSettings) ∧
    ∃ p, Properties.ofItems (sizeNames ++ sizeSettings) = .ok p ∧
      Properties.ofItems (sizeSettings ++ sizeNames) = .ok p ∧ p.rest = true ∧
      p.visibility = some .prot ∧ p.aliases = ["length", "count"] := by
  have hperm : (sizeSettings ++ sizeNames).Perm (sizeNames ++ sizeSettings) :=
    List.perm_append_comm
  obtain ⟨-, hreads, horder⟩ := properties_exact (sizeNames ++ sizeSettings)
  exact ⟨hreads.1 ⟨_, rfl⟩, hperm, _, rfl, (horder _ hperm rfl _).2 rfl, rfl, rfl, rfl⟩

example : Properties.ofItems [⟨false, ["size"], .absent⟩, ⟨false, ["name"], .absent⟩] =
      .error .unsupported ∧
    Properties.ofItems [⟨false, ["name"], .absent⟩, ⟨false, ["size"], .absent⟩] =
      .error .expectedEquals := ⟨rfl, rfl⟩

end MethodBinding.Attribute
