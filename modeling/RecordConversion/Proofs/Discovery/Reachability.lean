import RecordConversion.Proofs.Discovery.Run

/-!
# What a discovery finds

`Provider.Reached` is the least set of names that holds the root and every record that a record in
it refers to within the boundary.  A discovery of a provider that loads namespaces under the paths
that were asked for finds exactly these:

* what it adds is new and comes once (`Provider.Finishes.extends`);
* what it adds is reached (`Provider.Finishes.reached`);
* it leaves no reference aside unless there is no record (`Provider.Finishes.closed`);
* it ends with an error only where a namespace does not load (`Provider.Fails.exists_unloadable`).
-/

namespace RecordConversion

namespace Discovery

/-- Records are added to those found, each visited for the first time. -/
structure Extends
    (before after : Discovery) (added : List Record) : Prop where
  found : after.found = before.found ++ added
  visited : ∀ key, key ∈ after.visited ↔ key ∈ before.visited ∨ key ∈ added.map Record.key
  distinct : (added.map Record.key).Nodup
  fresh : ∀ record ∈ added, record.key ∉ before.visited

theorem Extends.refl
    (progress : Discovery) :
    progress.Extends progress [] where
  found := by simp
  visited := by simp
  distinct := List.nodup_nil
  fresh := by simp

theorem Extends.trans
    {before between after : Discovery} {added others : List Record}
    (first : before.Extends between added) (later : between.Extends after others) :
    before.Extends after (added ++ others) where
  found := by rw [later.found, first.found, List.append_assoc]
  visited := by
    intro key
    rw [later.visited, first.visited, List.map_append, List.mem_append, or_assoc]
  distinct := by
    rw [List.map_append, List.nodup_append]
    refine ⟨first.distinct, later.distinct, ?_⟩
    rintro key member other member' rfl
    obtain ⟨record, listed, rfl⟩ := List.mem_map.1 member'
    exact later.fresh record listed ((first.visited _).2 (.inr member))
  fresh := by
    intro record member
    rcases List.mem_append.1 member with member | member
    · exact first.fresh record member
    · exact fun old => later.fresh record member ((first.visited _).2 (.inl old))

/-- A record is entered, others are added, and it is added last. -/
theorem Extends.enter_leave
    {before after : Discovery} {added : List Record} {ref : QualifiedName} {record : Record}
    (fresh : record.key ∉ before.visited)
    (inner : (before.enter ref record).Extends after added) :
    before.Extends (after.leave record) (added ++ [record]) where
  found := by
    have found := inner.found
    simp only [enter, log] at found
    simp [leave, found]
  visited := by
    intro key
    have visited := inner.visited key
    simp only [enter, log, List.mem_cons] at visited
    simp only [leave, visited, List.map_append, List.map_cons, List.map_nil, List.mem_append,
      List.mem_singleton]
    constructor
    · rintro ((rfl | old) | new)
      · exact .inr (.inr rfl)
      · exact .inl old
      · exact .inr (.inl new)
    · rintro (old | new | rfl)
      · exact .inl (.inr old)
      · exact .inr new
      · exact .inl (.inl rfl)
  distinct := by
    rw [List.map_append, List.nodup_append]
    refine ⟨inner.distinct, by simp, ?_⟩
    rintro key member other member' rfl
    obtain ⟨earlier, listed, same⟩ := List.mem_map.1 member
    have last : key = record.key := by simpa using member'
    exact inner.fresh earlier listed (by simp [enter, log, same, last])
  fresh := by
    intro other member
    rcases List.mem_append.1 member with member | member
    · exact fun old => inner.fresh other member (List.mem_cons_of_mem _ old)
    · obtain rfl := List.mem_singleton.1 member
      exact fresh

end Discovery

/-- The names that an errand is about. -/
def Errand.Targets
    (module? : Option String) : Errand → QualifiedName → Prop
  | visit ref, target => target = ref
  | follow current refs, target => target ∈ refs ∧ inBoundary module? current target.path = true

/-- The first reference within the boundary is a target. -/
theorem Errand.Targets.head
    {module? : Option String} {current : String} {ref : QualifiedName} {rest : List QualifiedName}
    (inside : inBoundary module? current ref.path = true) :
    (follow current (ref :: rest)).Targets module? ref :=
  ⟨List.mem_cons_self, inside⟩

/-- The targets among the other references are targets. -/
theorem Errand.Targets.cons
    {module? : Option String} {current : String} {ref : QualifiedName} {rest : List QualifiedName}
    {target : QualifiedName}
    (wanted : (follow current rest).Targets module? target) :
    (follow current (ref :: rest)).Targets module? target :=
  ⟨List.mem_cons_of_mem _ wanted.1, wanted.2⟩

namespace Provider

/-- Namespaces are loaded under the paths that are asked for. -/
def LoadsAsAsked (provider : Provider) : Prop :=
  ∀ path space, provider.load path = .ok space → space.path = path

/-- A record has a field that refers to a name within the boundary, through any pointers and
slices. -/
def Refers
    (provider : Provider) (module? : Option String) (source target : QualifiedName) : Prop :=
  ∃ record, provider.record? source = .ok record ∧
    ∃ field ∈ record.fields, field.shape.nestedRecord? = some target ∧
      inBoundary module? record.path target.path = true

/-- There is no record of a name, though its namespace loads. -/
def NoRecord (provider : Provider) (target : QualifiedName) : Prop :=
  ∃ error, provider.record? target = .error error ∧ error.isSkippable = true

/-- The root, and every record that a record reached refers to within the boundary. -/
inductive Reached
    (provider : Provider) (module? : Option String) (root : QualifiedName) : QualifiedName → Prop
  | root :
      Reached provider module? root root
  | reference
      {source target : QualifiedName} {record : Record}
      (reached : Reached provider module? root source)
      (refers : provider.Refers module? source target)
      (built : provider.record? target = .ok record) :
      Reached provider module? root target

variable {provider : Provider} {module? : Option String}

/-- A run adds records that have not been visited, each once. -/
theorem Finishes.extends
    {errand : Errand} {before after : Discovery}
    (run : provider.Finishes module? errand before after) :
    ∃ added, before.Extends after added := by
  induction run with
  | known | done => exact ⟨[], .refl _⟩
  | found _ fresh _ ih =>
      obtain ⟨added, inner⟩ := ih
      exact ⟨added ++ [_], inner.enter_leave fresh⟩
  | passed _ _ ih => exact ih
  | skipped _ _ _ _ _ ih =>
      obtain ⟨added, extended⟩ := ih
      exact ⟨added, extended.found, extended.visited, extended.distinct, extended.fresh⟩
  | followed _ _ _ _ ih_first ih_later =>
      obtain ⟨added, first⟩ := ih_first
      obtain ⟨others, later⟩ := ih_later
      exact ⟨added ++ others, first.trans later⟩

/-- After a run from the start, the names visited are those of the records found. -/
theorem Finishes.mem_visited_iff
    {errand : Errand} {after : Discovery}
    (run : provider.Finishes module? errand .start after) (key : QualifiedName) :
    key ∈ after.visited ↔ key ∈ after.found.map Record.key := by
  obtain ⟨added, extended⟩ := run.extends
  rw [extended.visited, extended.found]
  simp [Discovery.start]

theorem Finishes.nodup_keys
    {errand : Errand} {after : Discovery}
    (run : provider.Finishes module? errand .start after) :
    (after.found.map Record.key).Nodup := by
  obtain ⟨added, extended⟩ := run.extends
  rw [extended.found]
  simpa [Discovery.start] using extended.distinct

theorem Finishes.built
    {errand : Errand} {before after : Discovery}
    (run : provider.Finishes module? errand before after)
    (built : ∀ record ∈ before.found, ∃ ref, provider.record? ref = .ok record) :
    ∀ record ∈ after.found, ∃ ref, provider.record? ref = .ok record := by
  induction run with
  | known | done => exact built
  | found here _ _ ih =>
      intro record member
      rcases List.mem_append.1 member with member | member
      · exact ih built record member
      · obtain rfl := List.mem_singleton.1 member
        exact ⟨_, here⟩
  | passed _ _ ih | skipped _ _ _ _ _ ih => exact ih built
  | followed _ _ _ _ ih_first ih_later => exact ih_later (ih_first built)

theorem NoRecord.loads
    {target : QualifiedName} (missing : provider.NoRecord target) :
    ∃ space, provider.load target.path = .ok space := by
  obtain ⟨error, failed, skippable⟩ := missing
  rcases record?_eq_error_iff.1 failed with ⟨cause, _, rfl⟩ | ⟨space, loaded, _⟩
  · cases skippable
  · exact ⟨space, loaded⟩

/-! ## Providers that load as asked -/

section AsAsked

variable (asked : provider.LoadsAsAsked)
include asked

/-- A record goes by the name under which it was asked for. -/
theorem key_of_record?
    {ref : QualifiedName} {record : Record}
    (built : provider.record? ref = .ok record) :
    record.key = ref := by
  obtain ⟨space, loaded, inside⟩ := record?_eq_ok_iff.1 built
  rw [(key_of_recordIn inside).1, asked ref.path space loaded]

/-- What the record of a name refers to are the targets of following its references. -/
theorem targets_follow_iff
    {ref target : QualifiedName} {record : Record}
    (built : provider.record? ref = .ok record) :
    (Errand.follow record.path record.references).Targets module? target ↔
      provider.Refers module? record.key target := by
  rw [key_of_record? asked built]
  simp only [Errand.Targets, Record.references, List.mem_filterMap]
  constructor
  · rintro ⟨⟨field, member, refers⟩, inside⟩
    exact ⟨record, built, field, member, refers, inside⟩
  · rintro ⟨other, built', field, member, refers, inside⟩
    obtain rfl : record = other := Except.ok.inj (built.symm.trans built')
    exact ⟨⟨field, member, refers⟩, inside⟩

/-- What an errand is about has been visited after it, unless there is no record. -/
theorem Finishes.targets_visited
    {errand : Errand} {before after : Discovery}
    (run : provider.Finishes module? errand before after)
    {target : QualifiedName} (wanted : errand.Targets module? target) :
    target ∈ after.visited ∨ provider.NoRecord target := by
  induction run with
  | known built visited =>
      obtain rfl : target = _ := wanted
      exact .inl (key_of_record? asked built ▸ visited)
  | found built _ inner _ =>
      obtain rfl : target = _ := wanted
      refine .inl (inner.visited_subset ?_)
      exact key_of_record? asked built ▸ List.mem_cons_self
  | done => cases wanted.1
  | passed handled later ih =>
      obtain ⟨member, inside⟩ := wanted
      rcases List.mem_cons.1 member with rfl | member
      · exact .inl (later.visited_subset (handled inside))
      · exact ih ⟨member, inside⟩
  | skipped _ _ unbuilt skippable _ ih =>
      obtain ⟨member, inside⟩ := wanted
      rcases List.mem_cons.1 member with rfl | member
      · exact .inr ⟨_, unbuilt, skippable⟩
      · exact ih ⟨member, inside⟩
  | followed _ _ _ later ih_first ih_later =>
      obtain ⟨member, inside⟩ := wanted
      rcases List.mem_cons.1 member with rfl | member
      · exact (ih_first rfl).imp_left fun visited => later.visited_subset visited
      · exact ih_later ⟨member, inside⟩

omit asked in
/-- The references of the records found have been visited, unless there is no record. -/
def ClosedAt
    (provider : Provider) (module? : Option String) (progress : Discovery) : Prop :=
  ∀ record ∈ progress.found, ∀ target, provider.Refers module? record.key target →
    target ∈ progress.visited ∨ provider.NoRecord target

/-- A run leaves no reference of the records found aside. -/
theorem Finishes.closed
    {errand : Errand} {before after : Discovery}
    (run : provider.Finishes module? errand before after)
    (closed : provider.ClosedAt module? before) :
    provider.ClosedAt module? after := by
  induction run with
  | known | done => exact closed
  | @found ref record progress after built _ inner ih =>
      have entered : provider.ClosedAt module? (progress.enter ref record) := by
        intro earlier member target refers
        exact (closed earlier member target refers).imp_left (List.mem_cons_of_mem _)
      intro other member target refers
      rcases List.mem_append.1 member with member | member
      · exact ih entered other member target refers
      · obtain rfl := List.mem_singleton.1 member
        exact inner.targets_visited asked ((targets_follow_iff asked built).2 refers)
  | passed _ _ ih => exact ih closed
  | skipped _ _ _ _ _ ih => exact ih closed
  | followed _ _ _ _ ih_first ih_later => exact ih_later (ih_first closed)

/-- A run finds only what is reached. -/
theorem Finishes.reached
    {root : QualifiedName} {errand : Errand} {before after : Discovery}
    (run : provider.Finishes module? errand before after)
    (wanted : ∀ target record, errand.Targets module? target →
      provider.record? target = .ok record → provider.Reached module? root target)
    (reached : ∀ record ∈ before.found, provider.Reached module? root record.key) :
    ∀ record ∈ after.found, provider.Reached module? root record.key := by
  induction run with
  | known | done => exact reached
  | found built _ _ ih =>
      have here := wanted _ _ rfl built
      have key := key_of_record? asked built
      have inner := ih (fun target nested refers nested_built => by
        refine .reference here ?_ nested_built
        exact key ▸ (targets_follow_iff asked built).1 refers) reached
      intro other member
      rcases List.mem_append.1 member with member | member
      · exact inner other member
      · obtain rfl := List.mem_singleton.1 member
        exact key ▸ here
  | passed _ _ ih | skipped _ _ _ _ _ ih =>
      exact ih (fun target record refers => wanted target record refers.cons) reached
  | followed inside _ _ _ ih_first ih_later =>
      refine ih_later (fun target record refers => wanted target record refers.cons)
        (ih_first ?_ reached)
      rintro target record rfl
      exact wanted target record (.head inside)

/-- A run that fails does so at one of its targets, or where a record reached refers to a namespace
that does not load.  What goes wrong behind a namespace that loads is skipped. -/
theorem Fails.exists_unloadable
    {root : QualifiedName} {errand : Errand} {before after : Discovery} {error : DiscoveryError}
    (run : provider.Fails module? errand before error after)
    (wanted : ∀ target record, errand.Targets module? target →
      provider.record? target = .ok record → provider.Reached module? root target) :
    (∃ target, errand.Targets module? target ∧ provider.record? target = .error error) ∨
      ∃ source target cause, provider.Reached module? root source ∧
        provider.Refers module? source target ∧
          provider.load target.path = .error cause ∧ error = .provider cause := by
  induction run with
  | unbuilt failed => exact .inl ⟨_, rfl, failed⟩
  | @inside ref record error progress after built _ inner ih =>
      have here := wanted _ _ rfl built
      have key := key_of_record? asked built
      rcases ih (fun target nested refers nested_built => by
        refine .reference here ?_ nested_built
        exact key ▸ (targets_follow_iff asked built).1 refers) with
        ⟨target, refers, failed⟩ | elsewhere
      · rcases record?_eq_error_iff.1 failed with ⟨cause, unloaded, rfl⟩ | ⟨space, _, failed⟩
        · refine .inr ⟨ref, target, cause, here, ?_, unloaded, rfl⟩
          exact key ▸ (targets_follow_iff asked built).1 refers
        · have skippable := isSkippable_of_recordIn failed
          simp [inner.not_isSkippable_of_follow] at skippable
      · exact .inr elsewhere
  | passed _ _ ih | skipped _ _ _ _ _ ih | followed _ _ _ _ ih =>
      rcases ih (fun target record refers => wanted target record refers.cons) with
        ⟨target, refers, failed⟩ | elsewhere
      · exact .inl ⟨target, refers.cons, failed⟩
      · exact .inr elsewhere
  | stopped inside _ _ _ ih =>
      rcases ih (by
        rintro target record rfl
        exact wanted target record (.head inside)) with
        ⟨target, rfl, failed⟩ | elsewhere
      · exact .inl ⟨target, .head inside, failed⟩
      · exact .inr elsewhere

/-- What is reached lies in the namespace of the root, in its module, or below that. -/
theorem Reached.path_within
    {root key : QualifiedName} (reached : provider.Reached module? root key) :
    key.path = root.path ∨
      ∃ base, module? = some base ∧
        (key.path = base ∨ (base ++ "/").toList <+: key.path.toList) := by
  induction reached with
  | root => exact .inl rfl
  | reference _ refers _ ih =>
      obtain ⟨record, built, field, _, _, inside⟩ := refers
      have here := congrArg QualifiedName.path (key_of_record? asked built)
      simp only [inBoundary, Bool.and_eq_true, Bool.or_eq_true, beq_iff_eq, Option.any_eq_true,
        List.isPrefixOf_iff_prefix] at inside
      rcases inside.2 with same | ⟨base, known, within⟩
      · rw [same]
        exact (show record.path = _ from here) ▸ ih
      · exact .inr ⟨base, known, within⟩

/-- The records found by a run from the start are what their names stand for. -/
theorem Finishes.record?_key
    {errand : Errand} {after : Discovery}
    (run : provider.Finishes module? errand .start after)
    {record : Record} (member : record ∈ after.found) :
    provider.record? record.key = .ok record := by
  obtain ⟨ref, built⟩ := run.built (by simp [Discovery.start]) record member
  exact key_of_record? asked built ▸ built

/-- A visit of the root finds exactly what the root reaches. -/
theorem Finishes.mem_keys_iff
    {root : QualifiedName} {record : Record} {after : Discovery}
    (built : provider.record? root = .ok record)
    (run : provider.Finishes module? (.visit root) .start after) (key : QualifiedName) :
    key ∈ after.found.map Record.key ↔ provider.Reached module? root key := by
  constructor
  · intro member
    obtain ⟨found, listed, rfl⟩ := List.mem_map.1 member
    refine run.reached asked ?_ (by simp [Discovery.start]) found listed
    rintro target _ rfl _
    exact .root
  · intro reached
    rw [← run.mem_visited_iff]
    induction reached with
    | root =>
        rcases run.targets_visited asked rfl with there | ⟨error, failed, _⟩
        · exact there
        · cases built.symm.trans failed
    | reference _ refers nested_built ih =>
        obtain ⟨source, listed, rfl⟩ := List.mem_map.1 ((run.mem_visited_iff _).1 ih)
        have closed := run.closed asked (by simp [ClosedAt, Discovery.start])
        rcases closed source listed _ refers with there | ⟨error, failed, _⟩
        · exact there
        · cases nested_built.symm.trans failed

/-- If a visit of the root finishes, every reference of what is reached loads. -/
theorem Finishes.loads
    {root : QualifiedName} {record : Record} {after : Discovery}
    (built : provider.record? root = .ok record)
    (run : provider.Finishes module? (.visit root) .start after)
    {source target : QualifiedName}
    (reached : provider.Reached module? root source)
    (refers : provider.Refers module? source target) :
    ∃ space, provider.load target.path = .ok space := by
  obtain ⟨found, member, rfl⟩ := List.mem_map.1 ((run.mem_keys_iff asked built source).2 reached)
  have closed := run.closed asked (by simp [ClosedAt, Discovery.start])
  rcases closed found member target refers with visited | missing
  · obtain ⟨other, listed, rfl⟩ := List.mem_map.1 ((run.mem_visited_iff target).1 visited)
    obtain ⟨space, loaded, _⟩ := record?_eq_ok_iff.1 (run.record?_key asked listed)
    exact ⟨space, loaded⟩
  · exact missing.loads

end AsAsked

/-- Orders and their buyers, who refer to each other, and the lines of orders in a namespace below
theirs.  A courier is in no namespace that loads. -/
def shop : Provider where
  declarations :=
    ⟨[(⟨"shop", "Order"⟩, ⟨⟨"shop", "Order"⟩, .defined (.record
        [⟨"Lines", .slice (.pointer (.named ⟨"shop/stock", "Line"⟩)), false, true⟩,
          ⟨"Buyer", .pointer (.named ⟨"shop", "Buyer"⟩), false, true⟩,
          ⟨"Courier", .named ⟨"post", "Courier"⟩, false, true⟩]), []⟩),
      (⟨"shop", "Buyer"⟩, ⟨⟨"shop", "Buyer"⟩, .defined (.record
        [⟨"Orders", .slice (.named ⟨"shop", "Order"⟩), false, true⟩]), []⟩),
      (⟨"shop/stock", "Line"⟩, ⟨⟨"shop/stock", "Line"⟩, .defined (.record
        [⟨"Count", .primitive .int, false, true⟩]), []⟩)]⟩
  load path :=
    if path = "shop" ∨ path = "shop/stock" then .ok ⟨path, path, some "shop"⟩
    else .error (.namespaceNotFound path)

/-- The namespaces of the shop load under their own paths. -/
theorem shop_loadsAsAsked :
    shop.LoadsAsAsked := by
  intro path space loaded
  simp only [shop] at loaded
  split at loaded
  · cases loaded
    rfl
  · cases loaded

end Provider
end RecordConversion
