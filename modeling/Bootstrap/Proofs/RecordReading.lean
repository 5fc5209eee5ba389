import Bootstrap.Settings.Text
import Bootstrap.Proofs.JsonGrammar

/-!
How a record is read from the members of an object: what is given overlays a default, field by
field and in any order, and a name that comes twice or is no text is refused.
-/

namespace Bootstrap

namespace Json

def timesGiven (name : String) (members : List Member) : Nat :=
  members.countP fun member => member.1 = some name

def valueOf? (name : String) : List Member → Option Node
  | [] => none
  | (other, value) :: members => if other = some name then some value else valueOf? name members

theorem timesGiven_cons (name : String) (given : Option String) (value : Node)
    (members : List Member) :
    timesGiven name ((given, value) :: members) =
      timesGiven name members + if given = some name then 1 else 0 := by
  simp [timesGiven, List.countP_cons]

theorem valueOf?_eq_none {name : String} {members : List Member}
    (absent : timesGiven name members = 0) : valueOf? name members = none := by
  induction members with
  | nil => rfl
  | cons member members ih =>
      obtain ⟨other, value⟩ := member
      rw [timesGiven_cons] at absent
      have differs : other ≠ some name := by
        intro same
        simp [same] at absent
      rw [valueOf?, if_neg differs]
      exact ih (by omega)

theorem mem_of_valueOf? {name : String} {value : Node} {members : List Member}
    (found : value ∈ valueOf? name members) : (some name, value) ∈ members := by
  induction members with
  | nil => simp [valueOf?] at found
  | cons member members ih =>
      obtain ⟨other, first⟩ := member
      rw [valueOf?] at found
      split at found
      next same =>
        rw [same, Option.mem_some.mp found]
        exact List.mem_cons_self
      next => exact List.mem_cons_of_mem _ (ih found)

theorem valueOf?_of_mem {name : String} {value : Node} {members : List Member}
    (once : timesGiven name members ≤ 1) (member : (some name, value) ∈ members) :
    valueOf? name members = some value := by
  induction members with
  | nil => simp at member
  | cons first members ih =>
      obtain ⟨other, found⟩ := first
      rw [timesGiven_cons] at once
      by_cases same : other = some name
      · rw [valueOf?, if_pos same]
        rcases List.mem_cons.mp member with isFirst | later
        · rw [(Prod.mk.inj isFirst).2]
        · have : 0 < timesGiven name members :=
            List.countP_pos_iff.mpr ⟨_, later, by simp⟩
          simp only [same, if_true] at once
          omega
      · rw [valueOf?, if_neg same]
        refine ih (by omega) ((List.mem_cons.mp member).resolve_left fun isFirst => ?_)
        exact same (Prod.mk.inj isFirst).1.symm

theorem isWhole_of_mem {members : List Member} (whole : allMembersWhole members = true) :
    ∀ member ∈ members, member.2.isWhole = true := by
  induction members with
  | nil => simp
  | cons first members ih =>
      simp only [allMembersWhole, Bool.and_eq_true] at whole
      intro member listed
      rcases List.mem_cons.mp listed with rfl | later
      · exact whole.1
      · exact ih whole.2 member later

end Json

namespace Settings

open Json (Member timesGiven timesGiven_cons valueOf? valueOf?_eq_none)

section fields

variable {α : Type}

def Field.change (field : Field α) (given : Option Json.Node) : α → α :=
  ((given.bind fun value => (field.read value).toOption)).getD id

/-- Two fields that touch different parts of the record. -/
def Field.Apart (left right : Field α) : Prop :=
  left.name ≠ right.name ∧ ∀ first second record,
    left.change first (right.change second record) = right.change second (left.change first record)

theorem Field.read_of {β : Type} {name : String} {read : Json.Node → Except ReadFault β}
    {update : β → α → α} {node : Json.Node} {value : β} (readable : read node = .ok value) :
    (Field.of name read update).read node = .ok (update value) := by
  simp only [Field.of, readable]
  rfl

theorem Field.change_of {β : Type} (name : String) (read : Json.Node → Except ReadFault β)
    (update : β → α → α) (given : Option Json.Node) :
    (Field.of name read update).change given =
      ((given.bind fun value => (read value).toOption).map update).getD id := by
  cases given with
  | none => rfl
  | some value =>
      cases result : read value <;>
        simp [Field.change, Field.of, result, Except.map, Except.toOption]

theorem Field.apart_of {β γ : Type} {name other : String}
    {read : Json.Node → Except ReadFault β} {readOther : Json.Node → Except ReadFault γ}
    {update : β → α → α} {updateOther : γ → α → α} (different : name ≠ other)
    (commute : ∀ value second record,
      update value (updateOther second record) = updateOther second (update value record)) :
    (Field.of name read update).Apart (Field.of other readOther updateOther) := by
  refine ⟨different, fun first second record => ?_⟩
  rw [Field.change_of, Field.change_of]
  cases first.bind fun value => (read value).toOption <;>
    cases second.bind fun value => (readOther value).toOption <;> simp [commute]

def overlay (fields : List (Field α)) (given : String → Option Json.Node) (record : α) : α :=
  fields.foldl (fun record field => field.change (given field.name) record) record

theorem Field.change_none (field : Field α) (record : α) : field.change none record = record := rfl

theorem overlay_cons (field : Field α) (fields : List (Field α))
    (given : String → Option Json.Node) (record : α) :
    overlay (field :: fields) given record =
      overlay fields given (field.change (given field.name) record) := rfl

theorem overlay_congr {fields : List (Field α)} {given other : String → Option Json.Node}
    (agree : ∀ field ∈ fields, given field.name = other field.name) (record : α) :
    overlay fields given record = overlay fields other record := by
  induction fields generalizing record with
  | nil => rfl
  | cons field fields ih =>
      rw [overlay_cons, overlay_cons, agree field (by simp)]
      exact ih (fun later listed => agree later (by simp [listed])) _

theorem overlay_insert {fields : List (Field α)} (apart : fields.Pairwise Field.Apart)
    {field : Field α} (listed : field ∈ fields) {given : String → Option Json.Node}
    (absent : given field.name = none) (value : Json.Node) (record : α) :
    overlay fields (fun name => if field.name = name then some value else given name) record =
      overlay fields given (field.change (some value) record) := by
  induction fields generalizing record with
  | nil => simp at listed
  | cons first fields ih =>
      obtain ⟨apartFirst, apartRest⟩ := List.pairwise_cons.mp apart
      rw [overlay_cons, overlay_cons]
      rcases List.mem_cons.mp listed with rfl | later
      · rw [if_pos rfl, absent, Field.change_none]
        refine overlay_congr (fun other listed => ?_) _
        rw [if_neg (apartFirst other listed).1]
      · have different := apartFirst field later
        rw [if_neg different.1.symm, different.2 (given first.name) (some value) record]
        exact ih apartRest later _

theorem named?_eq_some {fields : List (Field α)} {name : String} {field : Field α}
    (known : Field.named? fields name = some field) : field ∈ fields ∧ field.name = name :=
  ⟨List.mem_of_find?_eq_some known, by simpa using List.find?_some known⟩

theorem named?_eq_none {fields : List (Field α)} {name : String}
    (unknown : Field.named? fields name = none) : ∀ field ∈ fields, field.name ≠ name := by
  simpa [Field.named?] using unknown

end fields

section members

variable {α : Type} {fields : List (Field α)} {seen : List String} {record : α}
  {name : String} {value : Json.Node} {members : List Member}

/-- Members that a record takes: their names are texts, their values are whole, and each field is
given at most once, by a value that it reads. -/
structure Fits (fields : List (Field α)) (seen : List String) (members : List Member) : Prop where
  texts : ∀ member ∈ members, member.1.isSome = true
  whole : ∀ member ∈ members, member.2.isWhole = true
  once : ∀ field ∈ fields, timesGiven field.name members ≤ 1
  fresh : ∀ name ∈ seen, timesGiven name members = 0
  reads : ∀ field ∈ fields, ∀ value, (some field.name, value) ∈ members →
    ∃ update, field.read value = .ok update

theorem Fits.tail (fits : Fits fields seen ((some name, value) :: members)) :
    Fits fields seen members where
  texts := fun member listed => fits.texts member (List.mem_cons_of_mem _ listed)
  whole := fun member listed => fits.whole member (List.mem_cons_of_mem _ listed)
  once := fun field listed => by
    have := fits.once field listed
    rw [timesGiven_cons] at this
    omega
  fresh := fun other listed => by
    have := fits.fresh other listed
    rw [timesGiven_cons] at this
    omega
  reads := fun field listed value member =>
    fits.reads field listed value (List.mem_cons_of_mem _ member)

theorem Fits.not_seen (fits : Fits fields seen ((some name, value) :: members)) :
    name ∉ seen := by
  intro earlier
  have := fits.fresh name earlier
  simp [timesGiven_cons] at this

theorem Fits.absent {field : Field α} (listed : field ∈ fields)
    (fits : Fits fields seen ((some field.name, value) :: members)) :
    timesGiven field.name members = 0 := by
  have := fits.once field listed
  simp only [timesGiven_cons, if_true] at this
  omega

theorem Fits.seeing {field : Field α} (listed : field ∈ fields)
    (fits : Fits fields seen ((some field.name, value) :: members)) :
    Fits fields (field.name :: seen) members :=
  { fits.tail with
    fresh := fun other recorded => by
      rcases List.mem_cons.mp recorded with rfl | earlier
      · exact fits.absent listed
      · exact fits.tail.fresh other earlier }

theorem overlay_nil : overlay fields (fun name => valueOf? name []) record = record := by
  induction fields with
  | nil => rfl
  | cons field fields ih => exact ih

theorem overlay_unknown (unknown : Field.named? fields name = none) :
    overlay fields (fun other => valueOf? other ((some name, value) :: members)) record =
      overlay fields (fun other => valueOf? other members) record := by
  refine overlay_congr (fun field listed => ?_) _
  rw [valueOf?, if_neg fun same =>
    named?_eq_none unknown field listed (Option.some.inj same).symm]

theorem overlay_known (apart : fields.Pairwise Field.Apart) {field : Field α}
    (listed : field ∈ fields) (absent : timesGiven field.name members = 0) {update : α → α}
    (read : field.read value = .ok update) :
    overlay fields (fun other => valueOf? other ((some field.name, value) :: members)) record =
      overlay fields (fun other => valueOf? other members) (update record) := by
  have shape : (fun other => valueOf? other ((some field.name, value) :: members)) =
      fun other => if field.name = other then some value else valueOf? other members := by
    funext other
    simp [valueOf?]
  have change : field.change (some value) record = update record := by
    simp [Field.change, read, Except.toOption]
  rw [shape, overlay_insert apart listed (valueOf?_eq_none absent), change]

/-- Members that fit overlay the record, whatever their order and whatever stands between them. -/
theorem readMembers_eq_overlay (apart : fields.Pairwise Field.Apart)
    (fits : Fits fields seen members) :
    readMembers fields .closed seen record members =
      .ok (overlay fields (fun name => valueOf? name members) record) := by
  induction members generalizing seen record with
  | nil =>
      rw [overlay_nil]
      rfl
  | cons member members ih =>
      obtain ⟨given, value⟩ := member
      obtain ⟨name, rfl⟩ : ∃ name, given = some name :=
        Option.isSome_iff_exists.mp (fits.texts (given, value) (by simp))
      cases known : Field.named? fields name with
      | none =>
          rw [overlay_unknown known, readMembers, known]
          simp only [fits.whole (some name, value) (by simp), if_true]
          exact ih fits.tail
      | some field =>
          obtain ⟨listed, rfl⟩ := named?_eq_some known
          obtain ⟨update, read⟩ := fits.reads field listed value (by simp)
          have unseen : seen.contains field.name = false := by
            simpa using fits.not_seen
          rw [overlay_known apart listed (fits.absent listed) read, readMembers, known]
          simp only [unseen, Bool.false_eq_true, if_false, read]
          exact ih (fits.seeing listed)

structure Taken (fields : List (Field α)) (seen : List String) (members : List Member) : Prop where
  texts : ∀ member ∈ members, member.1.isSome = true
  once : ∀ field ∈ fields, timesGiven field.name members ≤ 1
  fresh : ∀ field ∈ fields, field.name ∈ seen → timesGiven field.name members = 0
  reads : ∀ name field, Field.named? fields name = some field → ∀ value,
    (some name, value) ∈ members → ∃ update, field.read value = .ok update

theorem Taken.unknown (unknown : Field.named? fields name = none)
    (taken : Taken fields seen members) : Taken fields seen ((some name, value) :: members) where
  texts := by
    rintro member (_ | ⟨_, listed⟩)
    · rfl
    · exact taken.texts member listed
  once := fun field listed => by
    have differs : name ≠ field.name := (named?_eq_none unknown field listed).symm
    simpa [timesGiven_cons, differs] using taken.once field listed
  fresh := fun field listed earlier => by
    have differs : name ≠ field.name := (named?_eq_none unknown field listed).symm
    simpa [timesGiven_cons, differs] using taken.fresh field listed earlier
  reads := fun other field known found member => by
    rcases List.mem_cons.mp member with isFirst | later
    · obtain ⟨same, -⟩ := Prod.mk.inj isFirst
      rw [Option.some.inj same, unknown] at known
      contradiction
    · exact taken.reads other field known found later

theorem Taken.known {field : Field α} {update : α → α}
    (known : Field.named? fields name = some field) (unseen : name ∉ seen)
    (read : field.read value = .ok update) (taken : Taken fields (name :: seen) members) :
    Taken fields seen ((some name, value) :: members) where
  texts := by
    rintro member (_ | ⟨_, listed⟩)
    · rfl
    · exact taken.texts member listed
  once := fun other listed => by
    by_cases same : name = other.name
    · have := taken.fresh other listed (by simp [same])
      simp [timesGiven_cons, same, this]
    · simpa [timesGiven_cons, same] using taken.once other listed
  fresh := fun other listed earlier => by
    have differs : name ≠ other.name := fun same => unseen (same ▸ earlier)
    simpa [timesGiven_cons, differs] using
      taken.fresh other listed (List.mem_cons_of_mem _ earlier)
  reads := fun other field' known' found member => by
    rcases List.mem_cons.mp member with isFirst | later
    · obtain ⟨same, rfl⟩ := Prod.mk.inj isFirst
      rw [Option.some.inj same, known] at known'
      exact ⟨update, Option.some.inj known' ▸ read⟩
    · exact taken.reads other field' known' found later

theorem readMembers_ok {ending : Json.Ending} {result : α}
    (read : readMembers fields ending seen record members = .ok result) :
    Taken fields seen members := by
  induction members generalizing seen record with
  | nil => exact ⟨by simp, by simp [timesGiven], by simp [timesGiven], by simp⟩
  | cons member members ih =>
      obtain ⟨_ | name, value⟩ := member
      · simp [readMembers] at read
      · cases known : Field.named? fields name with
        | none =>
            rw [readMembers, known] at read
            simp only at read
            split at read
            · exact (ih read).unknown known
            · simp at read
        | some field =>
            rw [readMembers, known] at read
            simp only at read
            split at read
            · simp at read
            next unseen =>
              cases result : field.read value with
              | error fault => simp [result, bind, Except.bind] at read
              | ok update =>
                  simp only [result, bind, Except.bind] at read
                  exact (ih read).known known (by simpa using unseen) result

end members

end Settings

end Bootstrap
