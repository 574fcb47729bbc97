import SearchGateway.Toml.Tree

/-!
# What headers and assignments build

A header opens a table behind those that stand in the same table, and the assignments that follow
fill it (`Place.builds_table`). Headers of items make a list of tables (`Place.builds_items`), and
headers that lead through a table without a header make that one on the way
(`Place.builds_subtables`).
-/

namespace SearchGateway.Toml

variable {fields before inner inner' : Fields} {name name' : String} {node : Node}
  {path rest : List String} {own origin : Origin}
  {change : Origin → Fields → Option (Origin × Fields)} {entries : List (String × Value)}
  {statements statements' : List Statement} {fields' fields'' : Fields}

/-! ## Fields -/

namespace Fields

@[simp] theorem get?_nil : get? [] name = none := rfl

theorem get?_cons : get? ((name', node) :: fields) name =
    if name' = name then some node else fields.get? name := by
  by_cases h : name' = name <;> simp [get?, h]

theorem get?_append : get? (before ++ fields) name = (before.get? name).or (fields.get? name) := by
  simp [get?, List.find?_append, Option.map_or]

theorem get?_eq_none_iff : fields.get? name = none ↔ ∀ field ∈ fields, field.1 ≠ name := by
  simp [get?]

@[simp] theorem set_nil : set [] name node = [(name, node)] := rfl

theorem set_of_new (h : fields.get? name = none) :
    fields.set name node = fields ++ [(name, node)] := by
  rw [get?_eq_none_iff] at h
  have hnone : fields.any (·.1 == name) = false := by simpa using h
  rw [set, hnone, if_neg Bool.false_ne_true]

theorem set_last {old : Node} (h : before.get? name = none) :
    set (before ++ [(name, old)]) name node = before ++ [(name, node)] := by
  rw [get?_eq_none_iff] at h
  have hbefore : before.map (fun field => if field.1 = name then (name, node) else field) =
      before := by
    refine (List.map_congr_left fun field hfield => ?_).trans (List.map_id before)
    exact if_neg (h field hfield)
  simp [set, hbefore]

end Fields

/-! ## Places -/

theorem within_append : within origin change (path ++ rest) own fields =
    within origin (within origin change rest) path own fields := by
  induction path generalizing own fields with
  | nil => rfl
  | cons name path ih => simp only [List.cons_append, within, ih]

/-- A place for a table within others: the path that leads to it, and the fields around it. What is
done to a table that stands there is done to it in its place. -/
structure Place where
  path : List String
  put : Fields → Fields
  within_put : ∀ {change own inner inner'}, (∀ own', change own' inner = some (own', inner')) →
    within .implied change path own (put inner) = some (own, put inner')

namespace Place

/-- The place of the whole document. -/
def root : Place where
  path := []
  put := id
  within_put h := h _

/-- The place of the table that stands last in a table. -/
def last (p : Place) (before : Fields) (name : String) (origin : Origin)
    (hnew : before.get? name = none) : Place where
  path := p.path ++ [name]
  put inner := p.put (before ++ [(name, .table origin inner)])
  within_put h := by
    rw [within_append]
    refine p.within_put fun own' => ?_
    simp [within, Fields.get?_append, Fields.get?_cons, hnew, h, Fields.set_last]

/-- The place of the last table of the list that stands last in a table. -/
def lastItem (p : Place) (before : Fields) (name : String) (tables : List Fields)
    (hnew : before.get? name = none) : Place where
  path := p.path ++ [name]
  put inner := p.put (before ++ [(name, .items (tables ++ [inner]))])
  within_put h := by
    rw [within_append]
    refine p.within_put fun own' => ?_
    simp [within, Fields.get?_append, Fields.get?_cons, hnew, h, Fields.set_last]

end Place

/-! ## Statements -/

/-- Assignments to names of the open table. -/
def assignments (entries : List (String × Value)) : List Statement :=
  entries.map fun entry => .assign [entry.1] entry.2

/-- A header and the assignments behind it. -/
def group (header : Statement) (entries : List (String × Value)) : List Statement :=
  header :: assignments entries

/-- What a value that can be a document is as one. -/
def Value.document (v : Value) : Json :=
  v.toJson?.getD .null

/-- The fields that assignments make. -/
def assigned (entries : List (String × Value)) : Fields :=
  entries.map fun entry => (entry.1, .value entry.2.document)

@[simp] theorem assigned_nil : assigned [] = [] := rfl

@[simp] theorem assigned_cons {entry : String × Value} : assigned (entry :: entries) =
    (entry.1, .value entry.2.document) :: assigned entries := rfl

@[simp] theorem assigned_append {entries' : List (String × Value)} :
    assigned (entries ++ entries') = assigned entries ++ assigned entries' :=
  List.map_append

/-- The field for a list of tables, if there are any. -/
def listed (name : String) (tables : List Fields) : Fields :=
  if tables.isEmpty then [] else [(name, .items tables)]

/-- The field for a table that is made on the way to others, if there are any. -/
def implied (name : String) (tables : Fields) : Fields :=
  if tables.isEmpty then [] else [(name, .table .implied tables)]

/-- The entries of a table: each has a name of its own and a value that can be a document. -/
structure AreEntries (entries : List (String × Value)) : Prop where
  nodup : (entries.map (·.1)).Nodup
  document : ∀ entry ∈ entries, entry.2.toJson?.isSome

/-- Statements build fields from others, whatever table is open at first. -/
def Builds (statements : List Statement) (fields fields' : Fields) : Prop :=
  ∀ path, ∃ path', statements.foldlM Building.step ⟨fields, path⟩ = some ⟨fields', path'⟩

theorem Builds.nil : Builds [] fields fields :=
  fun path => ⟨path, rfl⟩

theorem Builds.append (h : Builds statements fields fields')
    (h' : Builds statements' fields' fields'') :
    Builds (statements ++ statements') fields fields'' := by
  intro path
  obtain ⟨path', hpath'⟩ := h path
  obtain ⟨path'', hpath''⟩ := h' path'
  exact ⟨path'', by simp [List.foldlM_append, hpath', hpath'']⟩

namespace Place

variable {p : Place} {value : Value}

theorem step_assign (hnew : inner.get? name = none) (hvalue : value.toJson?.isSome) :
    Building.step ⟨p.put inner, p.path⟩ (.assign [name] value) =
      some ⟨p.put (inner ++ [(name, .value value.document)]), p.path⟩ := by
  obtain ⟨document, hdocument⟩ := Option.isSome_iff_exists.1 hvalue
  have hassign (own : Origin) : assign [name] document own inner =
      some (own, inner ++ [(name, .value document)]) := by
    simp [assign, within, define, hnew, Fields.set_of_new]
  simp [Building.step, Value.document, hdocument, p.within_put hassign]

theorem foldlM_assignments (hentries : AreEntries entries)
    (hnew : ∀ entry ∈ entries, inner.get? entry.1 = none) :
    (assignments entries).foldlM Building.step ⟨p.put inner, p.path⟩ =
      some ⟨p.put (inner ++ assigned entries), p.path⟩ := by
  induction entries generalizing inner with
  | nil => simp [assignments, assigned]
  | cons entry entries ih =>
      obtain ⟨hnodup, hdocument⟩ := hentries
      obtain ⟨hfresh, hnodup⟩ := List.nodup_cons.1 hnodup
      obtain ⟨hvalue, hvalues⟩ := List.forall_mem_cons.1 hdocument
      obtain ⟨hfirst, hothers⟩ := List.forall_mem_cons.1 hnew
      have hlater : ∀ other ∈ entries,
          Fields.get? (inner ++ [(entry.1, .value entry.2.document)]) other.1 = none := by
        intro other hother
        have hne : entry.1 ≠ other.1 := fun heq =>
          hfresh (List.mem_map.2 ⟨other, hother, heq.symm⟩)
        simp [Fields.get?_append, Fields.get?_cons, hothers other hother, hne]
      rw [assignments, List.map_cons, List.foldlM_cons, step_assign hfirst hvalue,
        ← assignments]
      simp [ih ⟨hnodup, hvalues⟩ hlater, assigned]

theorem step_table (hnew : inner.get? name = none) :
    Building.step ⟨p.put inner, path⟩ (.table (p.path ++ [name])) =
      some ⟨p.put (inner ++ [(name, .table .header [])]), p.path ++ [name]⟩ := by
  have hopen (own : Origin) : openTable name own inner =
      some (own, inner ++ [(name, .table .header [])]) := by
    simp [openTable, hnew, Fields.set_of_new]
  simp [Building.step, atParent, p.within_put hopen]

/-- A header and the assignments behind it build a table. -/
theorem builds_table (hentries : AreEntries entries) (hnew : inner.get? name = none) :
    Builds (group (.table (p.path ++ [name])) entries) (p.put inner)
      (p.put (inner ++ [(name, .table .header (assigned entries))])) := by
  intro path
  refine ⟨p.path ++ [name], ?_⟩
  rw [group, List.foldlM_cons, step_table hnew]
  exact foldlM_assignments (p := p.last inner name .header hnew) hentries (by simp)

/-! ### Lists of tables -/

/-- A header of an item and the assignments behind it add a table to a list. -/
theorem builds_item {tables : List Fields} (hentries : AreEntries entries)
    (hnew : inner.get? name = none) :
    Builds (group (.tableItem (p.path ++ [name])) entries)
      (p.put (inner ++ listed name tables))
      (p.put (inner ++ listed name (tables ++ [assigned entries]))) := by
  intro path
  have hopen (own : Origin) : openItem name own (inner ++ listed name tables) =
      some (own, inner ++ [(name, .items (tables ++ [[]]))]) := by
    cases tables with
    | nil => simp [openItem, listed, hnew, Fields.set_of_new]
    | cons first tables =>
        simp [openItem, listed, Fields.get?_append, Fields.get?_cons, hnew, Fields.set_last]
  have hstep : Building.step ⟨p.put (inner ++ listed name tables), path⟩
      (.tableItem (p.path ++ [name])) =
      some ⟨(p.lastItem inner name tables hnew).put [], p.path ++ [name]⟩ := by
    simp [Building.step, atParent, p.within_put hopen, lastItem]
  have hassigned := foldlM_assignments (p := p.lastItem inner name tables hnew) hentries
    fun _ _ => Fields.get?_nil
  refine ⟨p.path ++ [name], ?_⟩
  rw [group, List.foldlM_cons, hstep]
  simpa [lastItem, listed] using hassigned

theorem builds_more_items {groups : List (List (String × Value))} (tables : List Fields)
    (hgroups : ∀ entries ∈ groups, AreEntries entries) (hnew : inner.get? name = none) :
    Builds (groups.flatMap (group (.tableItem (p.path ++ [name]))))
      (p.put (inner ++ listed name tables))
      (p.put (inner ++ listed name (tables ++ groups.map assigned))) := by
  induction groups generalizing tables with
  | nil => simpa using Builds.nil
  | cons entries groups ih =>
      obtain ⟨hentries, hgroups⟩ := List.forall_mem_cons.1 hgroups
      rw [List.flatMap_cons]
      refine (builds_item hentries hnew).append ?_
      simpa using ih (tables ++ [assigned entries]) hgroups

/-- Headers of items and the assignments behind them build a list of tables. -/
theorem builds_items {groups : List (List (String × Value))}
    (hgroups : ∀ entries ∈ groups, AreEntries entries)
    (hnew : groups ≠ [] → inner.get? name = none) :
    Builds (groups.flatMap (group (.tableItem (p.path ++ [name])))) (p.put inner)
      (p.put (inner ++ listed name (groups.map assigned))) := by
  by_cases hnil : groups = []
  · subst hnil
    simpa [listed] using Builds.nil
  · simpa [listed] using builds_more_items [] hgroups (hnew hnil)

/-! ### Tables within a table without a header -/

theorem builds_subtable {tables : Fields} (hentries : AreEntries entries)
    (hnew : inner.get? name = none) (hother : tables.get? name' = none) :
    Builds (group (.table (p.path ++ [name, name'])) entries)
      (p.put (inner ++ implied name tables))
      (p.put (inner ++ implied name (tables ++ [(name', .table .header (assigned entries))]))) := by
  intro path
  have hopen (own : Origin) :
      within .implied (openTable name') [name] own (inner ++ implied name tables) =
        some (own, inner ++
          [(name, .table .implied (tables ++ [(name', .table .header [])]))]) := by
    cases tables with
    | nil => simp [within, openTable, implied, hnew, Fields.set_of_new]
    | cons first tables =>
        simp [within, openTable, implied, Fields.get?_append, Fields.get?_cons, hnew, hother,
          Fields.set_last, Fields.set_of_new]
  have hstep : Building.step ⟨p.put (inner ++ implied name tables), path⟩
      (.table (p.path ++ [name, name'])) =
      some ⟨((p.last inner name .implied hnew).last tables name' .header hother).put [],
        p.path ++ [name, name']⟩ := by
    have hparent : p.path ++ [name, name'] = (p.path ++ [name]) ++ [name'] := by simp
    rw [hparent, Building.step, atParent, List.getLast?_concat, List.dropLast_concat]
    simp [within_append, p.within_put hopen, last]
  have hassigned := foldlM_assignments hentries (fun _ _ => Fields.get?_nil)
    (p := (p.last inner name .implied hnew).last tables name' .header hother)
  refine ⟨p.path ++ [name, name'], ?_⟩
  rw [group, List.foldlM_cons, hstep]
  simpa [last, implied] using hassigned

theorem builds_more_subtables {subs : List (String × List (String × Value))} (tables : Fields)
    (hsubs : ∀ sub ∈ subs, AreEntries sub.2) (hnodup : (subs.map (·.1)).Nodup)
    (hnew : inner.get? name = none) (hothers : ∀ sub ∈ subs, tables.get? sub.1 = none) :
    Builds (subs.flatMap fun sub => group (.table (p.path ++ [name, sub.1])) sub.2)
      (p.put (inner ++ implied name tables))
      (p.put (inner ++ implied name
        (tables ++ subs.map fun sub => (sub.1, .table .header (assigned sub.2))))) := by
  induction subs generalizing tables with
  | nil => simpa using Builds.nil
  | cons sub subs ih =>
      obtain ⟨hsub, hsubs⟩ := List.forall_mem_cons.1 hsubs
      obtain ⟨hfresh, hnodup⟩ := List.nodup_cons.1 hnodup
      obtain ⟨hother, hothers⟩ := List.forall_mem_cons.1 hothers
      have hlater : ∀ later ∈ subs, Fields.get?
          (tables ++ [(sub.1, .table .header (assigned sub.2))]) later.1 = none := by
        intro later hlater
        have hne : sub.1 ≠ later.1 := fun heq =>
          hfresh (List.mem_map.2 ⟨later, hlater, heq.symm⟩)
        simp [Fields.get?_append, Fields.get?_cons, hothers later hlater, hne]
      rw [List.flatMap_cons]
      refine (builds_subtable hsub hnew hother).append ?_
      simpa using ih _ hsubs hnodup hlater

/-- The table that others make on the way to them holds these tables. -/
theorem builds_subtables {subs : List (String × List (String × Value))}
    (hsubs : ∀ sub ∈ subs, AreEntries sub.2) (hnodup : (subs.map (·.1)).Nodup)
    (hnew : inner.get? name = none) :
    Builds (subs.flatMap fun sub => group (.table (p.path ++ [name, sub.1])) sub.2) (p.put inner)
      (p.put (inner ++ implied name
        (subs.map fun sub => (sub.1, .table .header (assigned sub.2))))) := by
  simpa [implied] using builds_more_subtables [] hsubs hnodup hnew (by simp)

end Place

/-! ## Documents -/

@[simp] theorem fieldsToJson_append : fieldsToJson (fields ++ fields') =
    fieldsToJson fields ++ fieldsToJson fields' := by
  induction fields with
  | nil => rfl
  | cons field fields ih => simp [fieldsToJson, ih]

theorem fieldsToJson_map {α : Type} {l : List (String × α)} {f : α → Node} :
    fieldsToJson (l.map fun entry => (entry.1, f entry.2)) =
      l.map fun entry => (entry.1, (f entry.2).toJson) := by
  induction l with
  | nil => rfl
  | cons entry l ih => simp [fieldsToJson, ih]

theorem tablesToJson_map {α : Type} {l : List α} {f : α → Fields} :
    tablesToJson (l.map f) = l.map fun a => .object (fieldsToJson (f a)) := by
  induction l with
  | nil => rfl
  | cons a l ih => simp [tablesToJson, ih]

/-- What a name stands for in the document of some fields. -/
def lookUp (fields : Fields) (name : String) : Option Json :=
  Json.field? (.object (fieldsToJson fields)) name

@[simp] theorem lookUp_nil : lookUp [] name = none := rfl

@[simp] theorem lookUp_append : lookUp (fields ++ fields') name =
    (lookUp fields' name).or (lookUp fields name) := by
  simp [lookUp, Json.field?, Option.map_or]

@[simp] theorem lookUp_cons : lookUp ((name', node) :: fields) name =
    (lookUp fields name).or (if name' = name then some node.toJson else none) := by
  have hone : lookUp [(name', node)] name = if name' = name then some node.toJson else none := by
    by_cases h : name' = name <;> simp [lookUp, Json.field?, fieldsToJson, h]
  rw [← List.singleton_append, lookUp_append, hone]

end SearchGateway.Toml
