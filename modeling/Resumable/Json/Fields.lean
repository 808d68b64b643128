import Resumable.Json.Value

/-!
# Fields of an object

Look-up, insertion and removal on `Fields`, each with its effect on every look-up, and the law that
the look-ups determine the fields (`Fields.ext_get?`).
-/

namespace Resumable.Json.Fields

def get? (key : String) {bound : Option String} : Fields bound → Option Value
  | .nil => none
  | .cons first _ value rest => if key = first then some value else rest.get? key

/-- The same fields under a lower bound that their first key is known to exceed. -/
def lower {bound : Option String} {key : String} (follows : Follows bound key) :
    Fields (some key) → Fields bound
  | .nil => .nil
  | .cons next above value rest => .cons next (follows.trans (Follows.some_iff.1 above)) value rest

/-- The fields with `key` set to `value`. -/
def insertAbove (key : String) (value : Value) {bound : Option String}
    (follows : Follows bound key) : Fields bound → Fields bound
  | .nil => .cons key follows value .nil
  | .cons first above old rest =>
    if before : key < first then
      .cons key follows value (.cons first (Follows.some_iff.2 before) old rest)
    else if same : key = first then
      .cons first above value rest
    else
      .cons first above old
        (rest.insertAbove key value
          (Follows.some_iff.2 (Std.lt_of_le_of_ne (String.not_lt.1 before) (Ne.symm same))))

def insert (fields : Fields none) (key : String) (value : Value) : Fields none :=
  fields.insertAbove key value (Follows.none key)

def erase (key : String) {bound : Option String} : Fields bound → Fields bound
  | .nil => .nil
  | .cons first above value rest =>
    if key = first then rest.lower above else .cons first above value (rest.erase key)

/-- Fields in ascending order of their keys. -/
def toList {bound : Option String} : Fields bound → List (String × Value)
  | .nil => []
  | .cons key _ value rest => (key, value) :: rest.toList

/-- An object's fields from any list; of two fields with one key the later counts. -/
def ofList (fields : List (String × Value)) : Fields none :=
  fields.foldl (fun done field => done.insert field.1 field.2) .nil

def keys {bound : Option String} (fields : Fields bound) : List String :=
  fields.toList.map Prod.fst

@[simp] theorem get?_nil {bound : Option String} (key : String) :
    get? key (.nil : Fields bound) = none := rfl

theorem get?_cons {bound : Option String} (key first : String) (above : Follows bound first)
    (value : Value) (rest : Fields (some first)) :
    get? key (.cons first above value rest) = if key = first then some value else rest.get? key :=
  rfl

theorem get?_cons_self {bound : Option String} (key : String) (above : Follows bound key)
    (value : Value) (rest : Fields (some key)) :
    get? key (.cons key above value rest) = some value :=
  if_pos rfl

/-- A key that does not exceed the bound is absent. -/
theorem get?_eq_none {key : String} :
    ∀ {bound : Option String} (fields : Fields bound), ¬ Follows bound key → fields.get? key = none
  | _, .nil, _ => rfl
  | _, .cons first above _ rest, absent => by
    rw [get?_cons, if_neg (by rintro rfl; exact absent above)]
    exact rest.get?_eq_none fun follows => absent (above.trans (Follows.some_iff.1 follows))

@[simp] theorem get?_lower {bound : Option String} {key first : String}
    (above : Follows bound first) (fields : Fields (some first)) :
    (fields.lower above).get? key = fields.get? key := by
  cases fields <;> rfl

/-- A key that is found exceeds the bound. -/
theorem follows_of_get? {key : String} {value : Value} {bound : Option String}
    {fields : Fields bound} (found : fields.get? key = some value) : Follows bound key := by
  apply Decidable.byContradiction
  intro absent
  rw [fields.get?_eq_none absent] at found
  cases found

/-- The key of the first field does not come again. -/
theorem get?_rest {key : String} (rest : Fields (some key)) : rest.get? key = none :=
  rest.get?_eq_none fun follows => String.lt_irrefl key (Follows.some_iff.1 follows)

/-- A key below the first one is absent. -/
theorem get?_cons_of_lt {bound : Option String} {key first : String} (before : key < first)
    (above : Follows bound first) (value : Value) (rest : Fields (some first)) :
    get? key (.cons first above value rest) = none := by
  rw [get?_cons, if_neg (String.ne_of_lt before)]
  exact rest.get?_eq_none fun follows => String.lt_asymm before (Follows.some_iff.1 follows)

theorem get?_insertAbove (key : String) (value : Value) (other : String) :
    ∀ {bound : Option String} (follows : Follows bound key) (fields : Fields bound),
      (fields.insertAbove key value follows).get? other =
        if other = key then some value else fields.get? other
  | _, follows, .nil => by rfl
  | _, follows, .cons first above old rest => by
    rw [insertAbove]
    by_cases before : key < first
    · rw [dif_pos before]
      rfl
    · rw [dif_neg before]
      by_cases same : key = first
      · rw [dif_pos same]
        subst same
        by_cases h : other = key <;> simp [get?_cons, h]
      · rw [dif_neg same, get?_cons, get?_insertAbove key value other _ rest, get?_cons]
        by_cases h : other = first
        · simp [h, Ne.symm same]
        · simp [h]

theorem get?_insert (fields : Fields none) (key : String) (value : Value) (other : String) :
    (fields.insert key value).get? other =
      if other = key then some value else fields.get? other :=
  get?_insertAbove key value other _ fields

theorem get?_erase (key other : String) :
    ∀ {bound : Option String} (fields : Fields bound),
      (fields.erase key).get? other = if other = key then none else fields.get? other
  | _, .nil => by simp [erase]
  | _, .cons first above value rest => by
    rw [erase]
    by_cases same : key = first
    · rw [if_pos same]
      subst same
      rw [get?_lower, get?_cons]
      by_cases h : other = key
      · simp only [h, if_true]
        exact rest.get?_rest
      · simp [h]
    · rw [if_neg same, get?_cons, get?_erase key other rest, get?_cons]
      by_cases h : other = first
      · simp [h, Ne.symm same]
      · simp [h]

/-- Fields are determined by what looking up each key gives. -/
theorem ext_get? : ∀ {bound : Option String} (left right : Fields bound),
    (∀ key, left.get? key = right.get? key) → left = right
  | _, .nil, .nil, _ => rfl
  | _, .nil, .cons key _ value rest, h => by simpa [get?_cons] using h key
  | _, .cons key _ value rest, .nil, h => by simpa [get?_cons] using h key
  | _, .cons key above value rest, .cons key' above' value' rest', h => by
    have same : key = key' := by
      apply Classical.byContradiction
      intro differs
      by_cases before : key < key'
      · have := h key
        rw [get?_cons_of_lt before, get?_cons_self] at this
        cases this
      · have after : key' < key := Std.lt_of_le_of_ne (String.not_lt.1 before) (Ne.symm differs)
        have := h key'
        rw [get?_cons_of_lt after, get?_cons_self] at this
        cases this
    subst same
    have values := h key
    simp only [get?_cons, if_true, Option.some.injEq] at values
    subst values
    congr
    apply ext_get?
    intro other
    by_cases at_key : other = key
    · rw [at_key, rest.get?_rest, rest'.get?_rest]
    · have := h other
      simpa [get?_cons, at_key] using this

theorem insert_erase {fields : Fields none} {key : String} {value : Value}
    (present : fields.get? key = some value) : (fields.erase key).insert key value = fields := by
  apply ext_get?
  intro other
  rw [get?_insert, get?_erase]
  by_cases h : other = key <;> simp [h, present]

/-- Erasing a field that was absent before it was inserted restores the fields. -/
theorem erase_insert {fields : Fields none} {key : String} {value : Value}
    (absent : fields.get? key = none) : (fields.insert key value).erase key = fields := by
  apply ext_get?
  intro other
  rw [get?_erase, get?_insert]
  by_cases h : other = key <;> simp [h, absent]

theorem get?_foldl_insert {key : String} (entries : List (String × Value)) (fields : Fields none)
    (absent : ∀ entry ∈ entries, entry.1 ≠ key) :
    (entries.foldl (fun done entry => done.insert entry.1 entry.2) fields).get? key =
      fields.get? key := by
  induction entries generalizing fields with
  | nil => rfl
  | cons entry rest ih =>
    rw [List.foldl_cons, ih _ fun other member => absent other (List.mem_cons_of_mem _ member),
      get?_insert, if_neg (Ne.symm (absent entry List.mem_cons_self))]

theorem get?_ofList_eq_none {key : String} {entries : List (String × Value)}
    (absent : ∀ entry ∈ entries, entry.1 ≠ key) : (ofList entries).get? key = none :=
  get?_foldl_insert entries .nil absent

/-- The keys of an object ascend, so none of them occurs twice. -/
theorem nodup_toList : ∀ {bound : Option String} (fields : Fields bound),
    (fields.toList.map Prod.fst).Nodup ∧ ∀ entry ∈ fields.toList, Follows bound entry.1
  | _, .nil => ⟨List.nodup_nil, nofun⟩
  | bound, .cons first above value rest => by
    obtain ⟨distinct, follows⟩ := nodup_toList rest
    refine ⟨List.nodup_cons.mpr ⟨?_, distinct⟩, ?_⟩
    · intro member
      obtain ⟨entry, later, same⟩ := List.mem_map.mp member
      have before : first < entry.1 := Follows.some_iff.1 (follows entry later)
      exact String.lt_irrefl _ (same ▸ before)
    · intro entry member
      rcases List.mem_cons.mp member with rfl | later
      · exact above
      · exact above.trans (Follows.some_iff.1 (follows entry later))

theorem lookup_cons_eq_ite {β : Type} (key : String) (entry : String × β)
    (rest : List (String × β)) :
    (entry :: rest).lookup key = if key = entry.1 then some entry.2 else rest.lookup key := by
  rw [List.lookup_cons]
  by_cases same : key = entry.1
  · rw [if_pos same, beq_iff_eq.mpr same]
  · rw [if_neg same, beq_eq_false_iff_ne.mpr same]

theorem lookup_toList (key : String) : ∀ {bound : Option String} (fields : Fields bound),
    fields.toList.lookup key = fields.get? key
  | _, .nil => rfl
  | _, .cons first above value rest => by
    rw [toList, lookup_cons_eq_ite, get?_cons, lookup_toList key rest]

/-- Entries with different keys are the fields of the object that they make. -/
theorem get?_ofList {entries : List (String × Value)}
    (distinct : (entries.map Prod.fst).Nodup) (key : String) :
    (ofList entries).get? key = entries.lookup key := by
  have onto (fields : Fields none) :
      (entries.foldl (fun done entry => done.insert entry.1 entry.2) fields).get? key =
        (entries.lookup key).or (fields.get? key) := by
    induction entries generalizing fields with
    | nil => rfl
    | cons entry rest ih =>
      obtain ⟨absent, others⟩ := List.nodup_cons.mp distinct
      rw [List.foldl_cons, lookup_cons_eq_ite]
      by_cases same : key = entry.1
      · have missing : ∀ other ∈ rest, other.1 ≠ key := by
          intro other member again
          exact absent (List.mem_map.mpr ⟨other, member, again.trans same⟩)
        rw [get?_foldl_insert rest _ missing, get?_insert, if_pos same, if_pos same, Option.some_or]
      · rw [ih others, get?_insert, if_neg same, if_neg same]
  rw [ofList, onto, get?_nil, Option.or_none]

theorem lookup_filter_ne {key : String} (entries : List (String × Value)) (other : String) :
    (entries.filter fun entry => entry.1 ≠ key).lookup other =
      if other = key then none else entries.lookup other := by
  induction entries with
  | nil => simp
  | cons entry rest ih =>
    obtain ⟨first, value⟩ := entry
    by_cases dropped : first = key
    · subst dropped
      by_cases same : other = first
      · simpa [same] using ih
      · simpa [same, lookup_cons_eq_ite] using ih
    · by_cases same : other = first
      · subst same
        simp [dropped]
      · simpa [dropped, lookup_cons_eq_ite, same] using ih

/-- Erasing a key and dropping its entry are the same. -/
theorem ofList_filter_ne (fields : Fields none) (key : String) :
    ofList (fields.toList.filter fun entry => entry.1 ≠ key) = fields.erase key := by
  have distinct : ((fields.toList.filter fun entry => entry.1 ≠ key).map Prod.fst).Nodup :=
    fields.nodup_toList.1.sublist (List.filter_sublist.map Prod.fst)
  apply ext_get?
  intro other
  rw [get?_ofList distinct, lookup_filter_ne, lookup_toList, get?_erase]

end Resumable.Json.Fields
