import Asap.SqlTable
import Asap.PythonJson
import Asap.Isoformat

-- Snapshots of a task's state: `InMemorySnapshotStore` and the SQLite snapshot store, called one
-- call after another.
namespace Asap.Snapshots
open OrderedDict PythonValue SqlTable

structure StateSnapshot where
  id : String
  taskId : String
  version : Int
  data : List (Key × Value)
  checkpoint : Bool
  createdAt : DateTime
  positive : 1 ≤ version

inductive Call where
  | save (snapshot : StateSnapshot)
  | get (taskId : String) (version : Option Int)
  | listVersions (taskId : String)
  | delete (taskId : String) (version : Option Int)

inductive Reply where
  | saved
  | found (snapshot : Option StateSnapshot)
  | versions (versions : List Int)
  | deleted (any : Bool)
  | raised

structure Store where
  snapshots : Dict String (Dict Int StateSnapshot) := .empty
  latestVersions : Dict String Int := .empty

namespace InMemory

def save (s : Store) (snapshot : StateSnapshot) : Store :=
  let versions := (s.snapshots.get snapshot.taskId).getD .empty
  {snapshots := s.snapshots.set snapshot.taskId (versions.set snapshot.version snapshot)
   latestVersions := s.latestVersions.set snapshot.taskId (max ((s.latestVersions.get snapshot.taskId).getD 0) snapshot.version)}

def get (s : Store) (taskId : String) (version : Option Int) : Option StateSnapshot :=
  match s.snapshots.get taskId with
  | none => none
  | some versions =>
    match version with
    | none => (s.latestVersions.get taskId).bind versions.get
    | some version => versions.get version

def listVersions (s : Store) (taskId : String) : List Int :=
  match s.snapshots.get taskId with
  | none => []
  | some versions => versions.keys.mergeSort (fun left right => decide (left ≤ right))

-- The latest version is looked for again when it is the one that goes.
def forget (s : Store) (taskId : String) (version : Int) (remaining : Dict Int StateSnapshot) : Store :=
  let latestVersions :=
    if s.latestVersions.get taskId = some version then
      match remaining.keys.max? with
      | some latest => s.latestVersions.set taskId latest
      | none => s.latestVersions.erase taskId
    else s.latestVersions
  if remaining.entries.isEmpty then ⟨(s.snapshots.set taskId remaining).erase taskId,latestVersions.erase taskId⟩
  else ⟨s.snapshots.set taskId remaining,latestVersions⟩

def delete (s : Store) (taskId : String) (version : Option Int) : Store × Bool :=
  match s.snapshots.get taskId with
  | none => (s,false)
  | some versions =>
    match version with
    | none => (⟨s.snapshots.erase taskId,s.latestVersions.erase taskId⟩,true)
    | some version =>
      if (versions.get version).isSome then (forget s taskId version (versions.erase version),true) else (s,false)

def call (s : Store) : Call → Store × Reply
  | .save snapshot => (save s snapshot,.saved)
  | .get taskId version => (s,.found (get s taskId version))
  | .listVersions taskId => (s,.versions (listVersions s taskId))
  | .delete taskId version => ((delete s taskId version).1,.deleted (delete s taskId version).2)

def calls : Store → List Call → Store × List Reply
  | s,[] => (s,[])
  | s,first :: rest =>
    let answered := call s first
    let later := calls answered.1 rest
    (later.1,answered.2 :: later.2)

end InMemory

-- `json.dumps` of a dictionary, which raises on objects JSON has no form for.
mutual
def jsonable : Value → Bool
  | .other _ => false
  | .list items => jsonableList items
  | .dict items => jsonableItems items
  | _ => true
def jsonableList : List Value → Bool
  | [] => true
  | value :: rest => jsonable value && jsonableList rest
def jsonableItems : List (Key × Value) → Bool
  | [] => true
  | (_,value) :: rest => jsonable value && jsonableItems rest
end

def jsonText (data : List (Key × Value)) : Option String :=
  if jsonableItems data then some (String.ofList (render (.dict data))) else none

structure Row where
  taskId : String
  id : String
  version : Int
  data : String
  checkpoint : Int
  createdAt : String

namespace Sqlite
variable (floats : Floats)

def snapshotToRow (snapshot : StateSnapshot) : Option Row :=
  (jsonText snapshot.data).map (fun data =>
    ⟨snapshot.taskId,snapshot.id,snapshot.version,data,if snapshot.checkpoint then 1 else 0,snapshot.createdAt.isoformat⟩)

def rowToSnapshot (row : Row) : Option StateSnapshot :=
  match loads floats row.data,fromisoformat (offsetForZulu row.createdAt) with
  | some (.dict data),some createdAt =>
    if positive : 1 ≤ row.version then
      some ⟨row.id,row.taskId,row.version,data,row.checkpoint ≠ 0,createdAt,positive⟩
    else none
  | _,_ => none

def key (row : Row) : String × Int := (row.taskId,row.version)

def save (rows : List Row) (snapshot : StateSnapshot) : Option (List Row) :=
  if fitsInteger snapshot.version then (snapshotToRow snapshot).map (fun row => insertOrReplace key row rows) else none

-- `none` where a version cannot be bound or a row not be read.
def read : Option Row → Option (Option StateSnapshot)
  | none => some none
  | some row => (rowToSnapshot floats row).map some

def get (rows : List Row) (taskId : String) (version : Option Int) : Option (Option StateSnapshot) :=
  match version with
  | none => read floats (orderByIntDesc Row.version (rows.filter (fun row => decide (row.taskId = taskId)))).head?
  | some version =>
    if fitsInteger version then read floats (rows.find? (fun row => decide (key row = (taskId,version)))) else none

def listVersions (rows : List Row) (taskId : String) : List Int :=
  (orderByInt Row.version (rows.filter (fun row => decide (row.taskId = taskId)))).map Row.version

-- The rows a DELETE matches go, and their number is the row count.
def deleteWhere (rows : List Row) (selected : Row → Bool) : List Row × Bool :=
  (rows.filter (fun row => !selected row),decide (0 < (rows.filter selected).length))

def delete (rows : List Row) (taskId : String) (version : Option Int) : Option (List Row × Bool) :=
  match version with
  | none => some (deleteWhere rows (fun row => decide (row.taskId = taskId)))
  | some version => if fitsInteger version then some (deleteWhere rows (fun row => decide (key row = (taskId,version)))) else none

def call (rows : List Row) : Call → List Row × Reply
  | .save snapshot =>
    match save rows snapshot with
    | some rows => (rows,.saved)
    | none => (rows,.raised)
  | .get taskId version =>
    match get floats rows taskId version with
    | some snapshot => (rows,.found snapshot)
    | none => (rows,.raised)
  | .listVersions taskId => (rows,.versions (listVersions rows taskId))
  | .delete taskId version =>
    match delete rows taskId version with
    | some (rows,any) => (rows,.deleted any)
    | none => (rows,.raised)

def calls : List Row → List Call → List Row × List Reply
  | rows,[] => (rows,[])
  | rows,first :: rest =>
    let answered := call floats rows first
    let later := calls answered.1 rest
    (later.1,answered.2 :: later.2)

end Sqlite

-- What the in-memory store keeps: the latest version of a task is its greatest one, no task has an
-- empty map of versions, and a snapshot lies under its own task and version.
structure Tidy (s : Store) : Prop where
  nonempty : ∀ t versions, s.snapshots.get t = some versions → versions.entries ≠ []
  latest : ∀ t, s.latestVersions.get t = (s.snapshots.get t).bind (fun versions => versions.keys.max?)
  keyed : ∀ t versions v snapshot, s.snapshots.get t = some versions → versions.get v = some snapshot →
    snapshot.taskId = t ∧ snapshot.version = v

def lookup (s : Store) (t : String) (v : Int) : Option StateSnapshot := (s.snapshots.get t).bind (fun versions => versions.get v)

theorem greatest_iff (versions : Dict Int StateSnapshot) (m : Int) :
    versions.keys.max? = some m ↔ (versions.get m).isSome = true ∧ ∀ v, (versions.get v).isSome = true → v ≤ m := by
  rw [List.max?_eq_some_iff]
  simp only [Dict.mem_keys_iff]

theorem greatest_exists {versions : Dict Int StateSnapshot} (filled : versions.entries ≠ []) : ∃ m, versions.keys.max? = some m := by
  apply Option.isSome_iff_exists.mp
  rw [List.isSome_max?_iff]
  intro empty
  exact filled (List.map_eq_nil_iff.mp empty)

theorem greatest_none {versions : Dict Int StateSnapshot} (empty : versions.entries.isEmpty = true) : versions.keys.max? = none := by
  rw [List.max?_eq_none_iff]
  exact List.map_eq_nil_iff.mpr (List.isEmpty_iff.mp empty)

theorem filled_of_get {versions : Dict Int StateSnapshot} {v : Int} {snapshot : StateSnapshot} (found : versions.get v = some snapshot) :
    versions.entries ≠ [] := by
  intro empty
  have absent := (Dict.mem_iff versions).mpr found
  rw [empty] at absent
  cases absent

section Save
variable {s : Store} (snapshot : StateSnapshot)

theorem lookup_save (t : String) (v : Int) : lookup (InMemory.save s snapshot) t v =
    if t = snapshot.taskId ∧ v = snapshot.version then some snapshot else lookup s t v := by
  unfold lookup InMemory.save
  simp only [Dict.get_set]
  by_cases task : snapshot.taskId = t
  · subst task
    by_cases version : snapshot.version = v
    · simp [version]
    · cases found : s.snapshots.get snapshot.taskId with
      | none => simp [version,Ne.symm version,Dict.get_set]
      | some versions => simp [version,Ne.symm version,Dict.get_set]
  · simp [task,Ne.symm task]

-- The greatest version after a save: versions are positive, so 0 stands for none.
theorem greatest_save (versions : Dict Int StateSnapshot) :
    (versions.set snapshot.version snapshot).keys.max? = some (max (versions.keys.max?.getD 0) snapshot.version) := by
  rw [greatest_iff]
  have present : ∀ v, ((versions.set snapshot.version snapshot).get v).isSome = true ↔ v = snapshot.version ∨ (versions.get v).isSome = true := by
    intro v
    rw [Dict.get_set]
    by_cases same : snapshot.version = v
    · simp [same]
    · simp [same,Ne.symm same]
  cases greatest : versions.keys.max? with
  | none =>
    have empty : ∀ v, (versions.get v).isSome ≠ true := by
      intro v stored
      have member := (Dict.mem_keys_iff versions).mpr stored
      rw [List.max?_eq_none_iff.mp greatest] at member
      cases member
    have positive := snapshot.positive
    have top : max ((none : Option Int).getD 0) snapshot.version = snapshot.version := by simp; omega
    rw [top]
    refine ⟨(present _).mpr (.inl rfl),?_⟩
    intro v stored
    rcases (present v).mp stored with rfl | old
    · exact Int.le_refl _
    · exact absurd old (empty v)
  | some m =>
    obtain ⟨stored,bound⟩ := (greatest_iff versions m).mp greatest
    rw [Option.getD_some]
    constructor
    · rw [present]
      rcases Int.le_total m snapshot.version with below | above
      · exact .inl (Int.max_eq_right below)
      · exact .inr (by rw [Int.max_eq_left above]; exact stored)
    · intro v known
      rcases (present v).mp known with rfl | old
      · exact Int.le_max_right _ _
      · exact Int.le_trans (bound v old) (Int.le_max_left _ _)

theorem save_tidy (tidy : Tidy s) : Tidy (InMemory.save s snapshot) := by
  refine ⟨?_,?_,?_⟩
  · intro t versions found
    simp only [InMemory.save,Dict.get_set] at found
    split at found
    · cases found
      exact filled_of_get (Dict.get_set_self _ _ _)
    · exact tidy.nonempty t versions found
  · intro t
    simp only [InMemory.save,Dict.get_set]
    split
    · rename_i same
      subst same
      rw [Option.bind_some,greatest_save,tidy.latest]
      cases s.snapshots.get snapshot.taskId with
      | none => rfl
      | some versions => rfl
    · exact tidy.latest t
  · intro t versions v stored found known
    simp only [InMemory.save,Dict.get_set] at found
    split at found
    · rename_i same
      cases found
      rw [Dict.get_set] at known
      split at known
      · rename_i version
        cases known
        exact ⟨same,version⟩
      · subst same
        cases before : s.snapshots.get snapshot.taskId with
        | none =>
          rw [before] at known
          cases known
        | some versions =>
          rw [before] at known
          exact tidy.keyed _ versions v stored before known
    · exact tidy.keyed t versions v stored found known
end Save

-- What is left when one version goes.
theorem forget_get (s : Store) (taskId : String) (version : Int) (remaining : Dict Int StateSnapshot) (t : String) :
    (InMemory.forget s taskId version remaining).snapshots.get t =
      if taskId = t then (if remaining.entries.isEmpty then none else some remaining) else s.snapshots.get t := by
  unfold InMemory.forget
  simp only
  split
  · rename_i empty
    simp only [Dict.get_erase,Dict.get_set]
    split <;> rfl
  · rename_i filled
    simp only [Dict.get_set]

theorem forget_latest {s : Store} (tidy : Tidy s) {taskId : String} {version : Int} {versions : Dict Int StateSnapshot}
    (found : s.snapshots.get taskId = some versions) (t : String) :
    (InMemory.forget s taskId version (versions.erase version)).latestVersions.get t =
      if taskId = t then (versions.erase version).keys.max? else s.latestVersions.get t := by
  have before : s.latestVersions.get taskId = versions.keys.max? := by rw [tidy.latest,found,Option.bind_some]
  unfold InMemory.forget
  simp only
  split
  · rename_i empty
    rw [Dict.get_erase]
    split
    · rw [greatest_none empty]
    · rename_i other
      split
      · split
        · exact Dict.get_set_other _ _ other
        · rw [Dict.get_erase,if_neg other]
      · rfl
  · rename_i filled
    have filled : (versions.erase version).entries ≠ [] := fun empty => filled (List.isEmpty_iff.mpr empty)
    split
    · split
      · rename_i latest greatest
        rw [Dict.get_set,greatest]
      · rename_i none
        obtain ⟨m,greatest⟩ := greatest_exists filled
        rw [greatest] at none
        cases none
    · rename_i kept
      split
      · rename_i same
        subst same
        -- The greatest version stays where another one goes.
        obtain ⟨m,greatest⟩ := greatest_exists (tidy.nonempty taskId versions found)
        rw [before,greatest] at kept ⊢
        obtain ⟨stored,bound⟩ := (greatest_iff versions m).mp greatest
        have different : version ≠ m := fun same => kept (by rw [same])
        symm
        rw [greatest_iff]
        refine ⟨by rw [Dict.get_erase,if_neg different]; exact stored,?_⟩
        intro v known
        rw [Dict.get_erase] at known
        split at known
        · cases known
        · exact bound v known
      · rfl

theorem lookup_delete (s : Store) (t : String) (version : Option Int) (t' : String) (v' : Int) : lookup (InMemory.delete s t version).1 t' v' =
    if t' = t ∧ ∀ v ∈ version, v = v' then none else lookup s t' v' := by
  unfold InMemory.delete
  split
  · rename_i absent
    split
    · rename_i gone
      rw [gone.1,lookup,absent,Option.bind_none]
    · rfl
  · rename_i versions found
    split
    · by_cases same : t = t'
      · simp [lookup,same]
      · simp [lookup,Dict.get_erase,same,Ne.symm same]
    · rename_i v
      split
      · unfold lookup
        rw [forget_get]
        by_cases same : t = t'
        · subst same
          rw [if_pos rfl,found]
          have erased : (if (versions.erase v).entries.isEmpty then none else some (versions.erase v)).bind (fun versions => versions.get v') =
              (versions.erase v).get v' := by
            split
            · rename_i empty
              symm
              rw [Option.bind_none,Dict.get_none_iff,Dict.keys,List.isEmpty_iff.mp empty]
              exact List.not_mem_nil
            · rfl
          rw [erased,Dict.get_erase]
          simp
        · simp [same,Ne.symm same]
      · rename_i absent
        split
        · rename_i gone
          obtain ⟨rfl,named⟩ := gone
          rw [lookup,found,Option.bind_some,← named v rfl]
          simpa using absent
        · rfl

section Delete
variable {s : Store} (tidy : Tidy s) (t : String) (version : Option Int)

include tidy

theorem delete_tidy : Tidy (InMemory.delete s t version).1 := by
  unfold InMemory.delete
  split
  · exact tidy
  · rename_i versions found
    split
    · refine ⟨?_,?_,?_⟩
      · intro t' versions stored
        simp only [Dict.get_erase] at stored
        split at stored
        · cases stored
        · exact tidy.nonempty t' versions stored
      · intro t'
        simp only [Dict.get_erase]
        split
        · rfl
        · exact tidy.latest t'
      · intro t' versions v snapshot stored known
        simp only [Dict.get_erase] at stored
        split at stored
        · cases stored
        · exact tidy.keyed t' versions v snapshot stored known
    · rename_i v
      split
      · refine ⟨?_,?_,?_⟩
        · intro t' versions' stored
          rw [forget_get] at stored
          split at stored
          · split at stored
            · cases stored
            · rename_i filled
              cases stored
              exact fun empty => filled (List.isEmpty_iff.mpr empty)
          · exact tidy.nonempty t' versions' stored
        · intro t'
          rw [forget_latest tidy found,forget_get]
          split
          · split
            · rename_i empty
              exact greatest_none empty
            · rfl
          · exact tidy.latest t'
        · intro t' versions' v' snapshot stored known
          rw [forget_get] at stored
          split at stored
          · rename_i same
            subst same
            split at stored
            · cases stored
            · cases stored
              rw [Dict.get_erase] at known
              split at known
              · cases known
              · exact tidy.keyed t versions v' snapshot found known
          · exact tidy.keyed t' versions' v' snapshot stored known
      · exact tidy

theorem delete_any : (InMemory.delete s t version).2 = true ↔ ∃ v', (∀ v ∈ version, v = v') ∧ (lookup s t v').isSome = true := by
  unfold InMemory.delete lookup
  split
  · rename_i absent
    simp [absent]
  · rename_i versions found
    rw [found]
    split
    · obtain ⟨m,greatest⟩ := greatest_exists (tidy.nonempty t versions found)
      have stored := ((greatest_iff versions m).mp greatest).1
      simp only [true_iff]
      exact ⟨m,by simp,stored⟩
    · rename_i v
      split
      · rename_i stored
        simp only [true_iff]
        exact ⟨v,by simp,stored⟩
      · rename_i absent
        simp only [Bool.false_eq_true,false_iff]
        rintro ⟨v',named,stored⟩
        rw [← named v rfl] at stored
        exact absent stored
end Delete

theorem call_tidy {s : Store} (tidy : Tidy s) (call : Call) : Tidy (InMemory.call s call).1 := by
  cases call with
  | save snapshot => exact save_tidy snapshot tidy
  | get taskId version => exact tidy
  | listVersions taskId => exact tidy
  | delete taskId version => exact delete_tidy tidy taskId version

theorem calls_tidy {s : Store} (tidy : Tidy s) (calls : List Call) : Tidy (InMemory.calls s calls).1 := by
  induction calls generalizing s with
  | nil => exact tidy
  | cons call rest ih => exact ih (call_tidy tidy call)

theorem tidy_init : Tidy {} := by
  refine ⟨?_,fun _ => rfl,?_⟩
  · intro t versions found
    cases found
  · intro t versions v snapshot found
    cases found

section Refinement
variable (floats : Floats)

-- The data survives `json.loads(json.dumps(data))`.
def RoundTrips (snapshot : StateSnapshot) : Prop := (jsonText snapshot.data).bind (loads floats) = some (.dict snapshot.data)

theorem row_read {snapshot : StateSnapshot} (survives : RoundTrips floats snapshot) :
    ∃ row, Sqlite.snapshotToRow snapshot = some row ∧ Sqlite.key row = (snapshot.taskId,snapshot.version) ∧
      Sqlite.rowToSnapshot floats row = some snapshot := by
  obtain ⟨text,written,read⟩ := Option.bind_eq_some_iff.mp survives
  refine ⟨_,by rw [Sqlite.snapshotToRow,written,Option.map_some],rfl,?_⟩
  unfold Sqlite.rowToSnapshot
  simp only [read,offsetForZulu_isoformat,fromisoformat_isoformat,dif_pos snapshot.positive]
  obtain ⟨id,taskId,version,data,checkpoint,createdAt,positive⟩ := snapshot
  cases checkpoint <;> rfl

-- The rows of the table are the snapshots of the store.
structure Same (s : Store) (rows : List Row) : Prop where
  keyed : Keyed Sqlite.key rows
  read : ∀ row ∈ rows, ∃ snapshot, Sqlite.rowToSnapshot floats row = some snapshot ∧ lookup s row.taskId row.version = some snapshot
  stored : ∀ t v, (lookup s t v).isSome = true → ∃ row ∈ rows, Sqlite.key row = (t,v)

variable {floats} {s : Store} {rows : List Row}

theorem Same.present (same : Same floats s rows) (t : String) (v : Int) :
    (lookup s t v).isSome = true ↔ ∃ row ∈ rows, Sqlite.key row = (t,v) := by
  refine ⟨same.stored t v,?_⟩
  rintro ⟨row,member,named⟩
  obtain ⟨snapshot,_,found⟩ := same.read row member
  cases named
  rw [found]
  rfl

theorem save_same (same : Same floats s rows) {snapshot : StateSnapshot} (survives : RoundTrips floats snapshot)
    (fits : fitsInteger snapshot.version = true) :
    ∃ next, Sqlite.save rows snapshot = some next ∧ Same floats (InMemory.save s snapshot) next := by
  obtain ⟨row,written,named,read⟩ := row_read floats survives
  refine ⟨insertOrReplace Sqlite.key row rows,by rw [Sqlite.save,if_pos fits,written,Option.map_some],?_⟩
  obtain ⟨task,version⟩ := Prod.mk.inj named
  refine ⟨insertOrReplace_keyed Sqlite.key same.keyed row,?_,?_⟩
  · intro other member
    rcases (mem_insertOrReplace Sqlite.key row other rows).mp member with ⟨old,different⟩ | rfl
    · obtain ⟨known,readOld,found⟩ := same.read other old
      refine ⟨known,readOld,?_⟩
      rw [lookup_save,if_neg,found]
      rintro ⟨sameTask,sameVersion⟩
      exact different (by rw [named,Sqlite.key,sameTask,sameVersion])
    · refine ⟨snapshot,read,?_⟩
      rw [lookup_save,if_pos ⟨task,version⟩]
  · intro t v known
    rw [lookup_save] at known
    by_cases new : t = snapshot.taskId ∧ v = snapshot.version
    · exact ⟨row,(mem_insertOrReplace _ _ _ _).mpr (.inr rfl),by rw [named,new.1,new.2]⟩
    · rw [if_neg new] at known
      obtain ⟨other,member,under⟩ := same.stored t v known
      refine ⟨other,(mem_insertOrReplace _ _ _ _).mpr (.inl ⟨member,?_⟩),under⟩
      rw [under,named]
      intro equal
      exact new ⟨congrArg Prod.fst equal,congrArg Prod.snd equal⟩

theorem read_row (same : Same floats s rows) {row : Row} (member : row ∈ rows) :
    Sqlite.read floats (some row) = some (lookup s row.taskId row.version) := by
  obtain ⟨snapshot,read,found⟩ := same.read row member
  rw [Sqlite.read,read,found,Option.map_some]

theorem get_version_same (same : Same floats s rows) (t : String) {v : Int} (fits : fitsInteger v = true) :
    Sqlite.get floats rows t (some v) = some (InMemory.get s t (some v)) := by
  have memory : InMemory.get s t (some v) = lookup s t v := by
    unfold InMemory.get lookup
    split
    · rename_i absent
      rw [absent,Option.bind_none]
    · rename_i versions found
      rw [found,Option.bind_some]
  simp only [Sqlite.get,if_pos fits]
  rw [memory]
  cases known : lookup s t v with
  | none =>
    have absent : rows.find? (fun row => decide (Sqlite.key row = (t,v))) = none := by
      rw [List.find?_eq_none]
      intro row member named
      have stored := (same.present t v).mpr ⟨row,member,by simpa using named⟩
      rw [known] at stored
      cases stored
    rw [absent,Sqlite.read]
  | some snapshot =>
    obtain ⟨row,member,named⟩ := same.stored t v (by rw [known]; rfl)
    have found := same.keyed.find Sqlite.key member
    rw [named] at found
    rw [found,read_row same member]
    obtain ⟨task,version⟩ := Prod.mk.inj named
    rw [task,version,known]

theorem get_latest_same (tidy : Tidy s) (same : Same floats s rows) (t : String) :
    Sqlite.get floats rows t none = some (InMemory.get s t none) := by
  have selected : ∀ row, row ∈ rows.filter (fun row => decide (row.taskId = t)) ↔ row ∈ rows ∧ row.taskId = t := by
    intro row
    rw [List.mem_filter,decide_eq_true_eq]
  simp only [Sqlite.get]
  cases shape : orderByIntDesc Row.version (rows.filter (fun row => decide (row.taskId = t))) with
  | nil =>
    have absent : s.snapshots.get t = none := by
      cases found : s.snapshots.get t with
      | none => rfl
      | some versions =>
        obtain ⟨m,greatest⟩ := greatest_exists (tidy.nonempty t versions found)
        have stored : (lookup s t m).isSome = true := by
          rw [lookup,found,Option.bind_some]
          exact ((greatest_iff versions m).mp greatest).1
        obtain ⟨row,member,named⟩ := same.stored t m stored
        have listed := (mem_orderBy (fun left right => decide (Row.version right ≤ Row.version left)) _ row).mpr
          ((selected row).mpr ⟨member,(Prod.mk.inj named).1⟩)
        change row ∈ orderByIntDesc Row.version _ at listed
        rw [shape] at listed
        cases listed
    simp only [List.head?_nil,Sqlite.read,InMemory.get,absent]
  | cons first rest =>
    obtain ⟨inside,greatest⟩ := orderByIntDesc_head Row.version shape
    obtain ⟨member,task⟩ := (selected first).mp inside
    subst task
    have stored := (same.present first.taskId first.version).mpr ⟨first,member,rfl⟩
    obtain ⟨versions,found,present⟩ : ∃ versions, s.snapshots.get first.taskId = some versions ∧ (versions.get first.version).isSome = true := by
      unfold lookup at stored
      cases found : s.snapshots.get first.taskId with
      | none => simp [found] at stored
      | some versions => exact ⟨versions,rfl,by simpa [found] using stored⟩
    have latest : s.latestVersions.get first.taskId = some first.version := by
      rw [tidy.latest,found,Option.bind_some,greatest_iff]
      refine ⟨present,?_⟩
      intro v known
      obtain ⟨row,kept,named⟩ := (same.present first.taskId v).mp (by rw [lookup,found,Option.bind_some]; exact known)
      obtain ⟨task,version⟩ := Prod.mk.inj named
      rw [← version]
      exact greatest row ((selected row).mpr ⟨kept,task⟩)
    rw [List.head?_cons,read_row same member]
    simp only [InMemory.get,found,latest,lookup,Option.bind_some]

theorem listVersions_same (same : Same floats s rows) (t : String) : Sqlite.listVersions rows t = InMemory.listVersions s t := by
  have members : ∀ v, v ∈ (rows.filter (fun row => decide (row.taskId = t))).map Row.version ↔ (lookup s t v).isSome = true := by
    intro v
    rw [same.present,List.mem_map]
    constructor
    · rintro ⟨row,inside,rfl⟩
      obtain ⟨member,task⟩ := List.mem_filter.mp inside
      refine ⟨row,member,?_⟩
      rw [Sqlite.key,of_decide_eq_true task]
    · rintro ⟨row,member,named⟩
      obtain ⟨task,version⟩ := Prod.mk.inj named
      exact ⟨row,List.mem_filter.mpr ⟨member,decide_eq_true task⟩,version⟩
  have distinct : ((rows.filter (fun row => decide (row.taskId = t))).map Row.version).Nodup := by
    apply List.pairwise_map.mpr
    refine (same.keyed.filter _).imp_of_mem ?_
    intro left right first second different equal
    have task := of_decide_eq_true (List.mem_filter.mp first).2
    have task' := of_decide_eq_true (List.mem_filter.mp second).2
    exact different (by rw [Sqlite.key,Sqlite.key,task,task',equal])
  rw [Sqlite.listVersions,orderByInt_column]
  unfold InMemory.listVersions
  split
  · rename_i absent
    have empty : (rows.filter (fun row => decide (row.taskId = t))).map Row.version = [] := by
      rw [List.eq_nil_iff_forall_not_mem]
      intro v member
      have stored := (members v).mp member
      rw [lookup,absent] at stored
      cases stored
    rw [empty,List.mergeSort_nil]
  · rename_i versions found
    apply sorted_eq
    apply (List.perm_ext_iff_of_nodup distinct versions.distinct).mpr
    intro v
    rw [members,lookup,found,Option.bind_some]
    exact (Dict.mem_keys_iff versions).symm

theorem delete_same (tidy : Tidy s) (same : Same floats s rows) (t : String) {version : Option Int}
    (fits : ∀ v ∈ version, fitsInteger v = true) :
    ∃ next, Sqlite.delete rows t version = some (next,(InMemory.delete s t version).2) ∧
      Same floats (InMemory.delete s t version).1 next := by
  obtain ⟨selected,means,deleted⟩ : ∃ selected : Row → Bool,
      (∀ row, selected row = true ↔ row.taskId = t ∧ ∀ v ∈ version, v = row.version) ∧
      Sqlite.delete rows t version = some (Sqlite.deleteWhere rows selected) := by
    cases version with
    | none => exact ⟨fun row => decide (row.taskId = t),by simp,rfl⟩
    | some v =>
      refine ⟨fun row => decide (Sqlite.key row = (t,v)),?_,by simp only [Sqlite.delete,if_pos (fits v rfl)]⟩
      intro row
      rw [decide_eq_true_eq]
      constructor
      · intro named
        obtain ⟨task,equal⟩ := Prod.mk.inj named
        refine ⟨task,?_⟩
        intro v' given
        cases given
        exact equal.symm
      · rintro ⟨task,named⟩
        rw [Sqlite.key,task,named v rfl]
  refine ⟨rows.filter (fun row => !selected row),?_,?_⟩
  · rw [deleted,Sqlite.deleteWhere]
    congr 2
    rw [Bool.eq_iff_iff,decide_eq_true_eq,delete_any tidy,List.length_pos_iff_exists_mem]
    constructor
    · rintro ⟨row,inside⟩
      obtain ⟨member,chosen⟩ := List.mem_filter.mp inside
      obtain ⟨task,named⟩ := (means row).mp chosen
      exact ⟨row.version,named,(same.present t row.version).mpr ⟨row,member,by rw [Sqlite.key,task]⟩⟩
    · rintro ⟨v,named,stored⟩
      obtain ⟨row,member,under⟩ := same.stored t v stored
      obtain ⟨task,equal⟩ := Prod.mk.inj under
      exact ⟨row,List.mem_filter.mpr ⟨member,(means row).mpr ⟨task,fun v' given => (named v' given).trans equal.symm⟩⟩⟩
  · refine ⟨same.keyed.filter _,?_,?_⟩
    · intro row inside
      obtain ⟨member,kept⟩ := List.mem_filter.mp inside
      obtain ⟨snapshot,read,found⟩ := same.read row member
      refine ⟨snapshot,read,?_⟩
      rw [lookup_delete,if_neg,found]
      intro gone
      rw [(means row).mpr gone] at kept
      cases kept
    · intro t' v' stored
      rw [lookup_delete] at stored
      split at stored
      · cases stored
      · rename_i kept
        obtain ⟨row,member,under⟩ := same.stored t' v' stored
        obtain ⟨task,equal⟩ := Prod.mk.inj under
        refine ⟨row,List.mem_filter.mpr ⟨member,?_⟩,under⟩
        cases chosen : selected row with
        | false => rfl
        | true =>
          have gone := (means row).mp chosen
          rw [task,equal] at gone
          exact absurd gone kept

end Refinement

-- The versions a call names.
def Call.version : Call → Option Int
  | .save snapshot => some snapshot.version
  | .get _ version | .delete _ version => version
  | .listVersions _ => none

-- Versions SQLite can hold, and data that survives JSON.
def Call.Storable (floats : Floats) (call : Call) : Prop :=
  (∀ v ∈ call.version, fitsInteger v = true) ∧ ∀ snapshot, call = .save snapshot → RoundTrips floats snapshot

theorem call_same {floats : Floats} {s : Store} {rows : List Row} (tidy : Tidy s) (same : Same floats s rows) {call : Call}
    (storable : call.Storable floats) : (Sqlite.call floats rows call).2 = (InMemory.call s call).2 ∧
      Same floats (InMemory.call s call).1 (Sqlite.call floats rows call).1 := by
  cases call with
  | save snapshot =>
    obtain ⟨next,saved,later⟩ := save_same same (storable.2 snapshot rfl) (storable.1 snapshot.version rfl)
    simp only [Sqlite.call,saved,InMemory.call]
    exact ⟨trivial,later⟩
  | get taskId version =>
    have equal : Sqlite.get floats rows taskId version = some (InMemory.get s taskId version) := by
      cases version with
      | none => exact get_latest_same tidy same taskId
      | some v => exact get_version_same same taskId (storable.1 v rfl)
    simp only [Sqlite.call,equal,InMemory.call]
    exact ⟨trivial,same⟩
  | listVersions taskId =>
    simp only [Sqlite.call,InMemory.call,listVersions_same same]
    exact ⟨trivial,same⟩
  | delete taskId version =>
    have fits : ∀ v ∈ version, fitsInteger v = true := storable.1
    obtain ⟨next,deleted,later⟩ := delete_same tidy same taskId fits
    have answered : Sqlite.call floats rows (.delete taskId version) = (next,.deleted (InMemory.delete s taskId version).2) := by
      simp only [Sqlite.call]
      rw [deleted]
    rw [answered]
    exact ⟨rfl,later⟩

theorem calls_same {floats : Floats} {s : Store} {rows : List Row} (tidy : Tidy s) (same : Same floats s rows) {calls : List Call}
    (storable : ∀ call ∈ calls, call.Storable floats) :
    (InMemory.calls s calls).2 = (Sqlite.calls floats rows calls).2 := by
  induction calls generalizing s rows with
  | nil => rfl
  | cons call rest ih =>
    obtain ⟨equal,later⟩ := call_same tidy same (storable call List.mem_cons_self)
    have replies := ih (call_tidy tidy call) later (fun other member => storable other (List.mem_cons_of_mem _ member))
    simp only [InMemory.calls,Sqlite.calls,equal,replies]

theorem same_init (floats : Floats) : Same floats {} [] := by
  refine ⟨List.Pairwise.nil,?_,?_⟩
  · intro row member
    cases member
  · intro t v stored
    cases stored

-- Over any sequence of calls the in-memory store stays tidy, and it answers as the SQLite store does
-- as long as the versions fit an INTEGER.
theorem snapshot_stores_agree (floats : Floats) (calls : List Call) :
    Tidy (InMemory.calls {} calls).1 ∧
    ((∀ call ∈ calls, call.Storable floats) → (InMemory.calls {} calls).2 = (Sqlite.calls floats [] calls).2) :=
  ⟨calls_tidy tidy_init calls,fun storable => calls_same tidy_init (same_init floats) storable⟩

theorem savedAt_date : 1 ≤ 2026 ∧ 2026 ≤ 9999 ∧ 1 ≤ 1 ∧ 1 ≤ 12 ∧ 1 ≤ 2 ∧ 2 ≤ daysInMonth 2026 1 := by decide
theorem savedAt_time : 3 < 24 ∧ 4 < 60 ∧ 5 < 60 ∧ 0 < 1000000 := by decide
theorem savedAt_offset : ∀ delta ∈ some (0 : Int), -86400000000 < delta ∧ delta < 86400000000 := by decide

def savedAt : DateTime := ⟨2026,1,2,3,4,5,0,some 0,savedAt_date,savedAt_time,savedAt_offset⟩

def sampleSnapshot (id : String) (version step : Int) (positive : 1 ≤ version) : StateSnapshot :=
  ⟨id,"t1",version,[(.str "step",.int step)],true,savedAt,positive⟩

theorem sampleSnapshot_roundTrips (id : String) (version : Int) {step : Int} (positive : 1 ≤ version) :
    RoundTrips integersOnly (sampleSnapshot id version step positive) := by
  have plain : Plain integersOnly (.dict [(.str "step",.int step)]) := ⟨rfl,trivial,trivial⟩
  have written : jsonText [(.str "step",.int step)] = some (String.ofList (render (.dict [(.str "step",.int step)]))) := if_pos rfl
  have collapsed : collapse (.dict [(.str "step",.int step)]) = .dict [(.str "step",.int step)] := rfl
  unfold RoundTrips sampleSnapshot
  rw [written,Option.bind_some,loads_render integersOnly _ plain,collapsed]

def outOfOrder : List Call :=
  [.save (sampleSnapshot "b" 2 7 (by decide)),.save (sampleSnapshot "a" 1 3 (by decide)),.get "t1" none,
   .delete "t1" (some 2),.get "t1" none,.listVersions "t1",.delete "t1" none,.get "t1" none]

theorem outOfOrder_storable : ∀ call ∈ outOfOrder, call.Storable integersOnly := by
  have fits : ∀ call ∈ outOfOrder, ∀ v ∈ call.version, fitsInteger v = true := by decide
  intro call member
  refine ⟨fits call member,?_⟩
  rintro snapshot rfl
  simp only [outOfOrder,List.mem_cons,Call.save.injEq,reduceCtorEq,or_false,List.not_mem_nil] at member
  rcases member with rfl | rfl
  · exact sampleSnapshot_roundTrips _ _ _
  · exact sampleSnapshot_roundTrips _ _ _

-- Saved out of order, and the latest one deleted.
theorem snapshot_stores_agree_deleted : (∀ call ∈ outOfOrder, call.Storable integersOnly) ∧
    (InMemory.calls {} outOfOrder).2 = (Sqlite.calls integersOnly [] outOfOrder).2 :=
  ⟨outOfOrder_storable,(snapshot_stores_agree integersOnly outOfOrder).2 outOfOrder_storable⟩

def tooLarge : StateSnapshot := sampleSnapshot "c" (2 ^ 63) 1 (by decide)

-- 2 ^ 63 is a version in memory and raises in SQLite.
theorem snapshot_stores_differ : RoundTrips integersOnly tooLarge ∧
    (InMemory.calls {} [.save tooLarge]).2 ≠ (Sqlite.calls integersOnly [] [.save tooLarge]).2 := by
  refine ⟨sampleSnapshot_roundTrips _ _ _,?_⟩
  have raised : (Sqlite.calls integersOnly [] [.save tooLarge]).2 = [.raised] := rfl
  have saved : (InMemory.calls {} [.save tooLarge]).2 = [.saved] := rfl
  rw [raised,saved]
  intro same
  cases same

end Asap.Snapshots
