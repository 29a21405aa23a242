import Fleet.Proofs.Codec.Reading
import Fleet.Report.Basic

namespace Fleet

/-!
# What every entry of a report is like

A report holds what its agent wrote, but not every entry that the types allow.  An entry is built from the
fields of a record by one function, and what that function makes sure of, whatever its arguments, holds of
every entry that is read.
-/

namespace Report

/-- An entry of a list field was read from an item of the list. -/
theorem mem_listField {α : Type} {field : String} {read : Json → Except Problem α} {document : Json}
    {entries : List α} {entry : α} (given : (listField field read document).1 = some entries)
    (member : entry ∈ entries) : ∃ item, read item = .ok entry := by
  unfold listField at given
  split at given
  · obtain rfl := Option.some.inj given
    rcases List.mem_filterMap.1 member with ⟨item, _, found⟩
    refine ⟨item, ?_⟩
    cases result : read item <;> rw [result] at found <;> cases found
    rfl
  · cases given

theorem mem_fieldOf_listField {α : Type} {field : String} {read : Json → Except Problem α} {document : Json}
    {entries : List α} {entry : α} (given : (fieldOf document field (listField field read)).1 = some entries)
    (member : entry ∈ entries) : ∃ item, read item = .ok entry := by
  unfold fieldOf at given
  split at given
  · exact mem_listField given member
  · cases given

/-- The containers of a report are read from a list of it. -/
theorem exists_readContainer {document : Json} {containers : List Container} {container : Container}
    (given : (read document).1.containers = some containers) (member : container ∈ containers) :
    ∃ item, readContainer item = .ok container := by
  cases document with
  | object fields => exact mem_fieldOf_listField given member
  | _ => cases given

/-- The services of a report are read from a list of it. -/
theorem exists_readService {document : Json} {services : List Service} {service : Service}
    (given : (read document).1.services = some services) (member : service ∈ services) :
    ∃ item, readService item = .ok service := by
  cases document with
  | object fields => exact mem_fieldOf_listField given member
  | _ => cases given

theorem decode_of_readService {item : Json} {service : Service} (read : readService item = .ok service) :
    serviceRecord.decode item = .ok service := by
  unfold readService at read
  cases decoded : serviceRecord.decode item with
  | error fault =>
      rw [decoded] at read
      cases read
  | ok found =>
      rw [decoded] at read
      simp only at read
      split at read <;> cases read
      rfl

/-- What the record of services gives holds of the services of a report. -/
theorem holds_service {Holds : Service → Prop} (gives : serviceRecord.Gives Holds) {document : Json}
    {services : List Service} {service : Service} (given : (read document).1.services = some services)
    (member : service ∈ services) : Holds service := by
  rcases exists_readService given member with ⟨item, found⟩
  exact gives.decode (decode_of_readService found)

theorem holds_container {Holds : Container → Prop} (gives : containerRecord.Gives Holds) {document : Json}
    {containers : List Container} {container : Container} (given : (read document).1.containers = some containers)
    (member : container ∈ containers) : Holds container := by
  rcases exists_readContainer given member with ⟨item, found⟩
  exact gives.decode (ok_of_mapError found)

/-- Agents may list a container twice for a service; a report does not. -/
theorem nodup_associatedContainerIds {document : Json} {services : List Service} {service : Service}
    (given : (read document).1.services = some services) (member : service ∈ services) :
    service.associatedContainerIds.Nodup := by
  have gives : serviceRecord.Gives fun service => service.associatedContainerIds.Nodup := by
    unfold serviceRecord
    iterate 13 apply Record.gives_seq
    apply Record.gives_map
    intros
    exact nodup_distinct _
  exact holds_service gives given member

end Report
end Fleet
