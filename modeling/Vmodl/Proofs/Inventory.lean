import Vmodl.Inventory.Client
import Vmodl.Proofs.Calls
import Vmodl.Proofs.Construction
import Vmodl.Proofs.Missing

/-!
# The inventory

What holds of every client whose registry describes it holds of the client of the inventory: the values of
its data types come back from the wire, its handles keep their references and are constructed property by
property, a value that is missing is reported where it is missing, and its methods make the calls that the
schema declares.
-/

namespace Vmodl.Inventory

open Wire

/-- The type of the states of machines. -/
def runtimeInfo : StructType where
  name := ⟨false, "VirtualMachineRuntimeInfo"⟩
  wireName := "VirtualMachineRuntimeInfo"
  base := some ⟨true, "DynamicData"⟩
  own := [
    { ident := "host", wireName := "host",
      shape := .option (.boxed (.named .managed ⟨false, "HostSystem"⟩)) },
    { ident := "power_state", wireName := "powerState",
      shape := .named .enumeration ⟨false, "VirtualMachinePowerState"⟩ },
    { ident := "boot_time", wireName := "bootTime", shape := .option (.primitive .dateTime) },
    { ident := "max_cpu_usage", wireName := "maxCpuUsage", shape := .option (.primitive .int) }]

def hostName : TypeName := ⟨false, "HostSystem"⟩

def powerStateName : TypeName := ⟨false, "VirtualMachinePowerState"⟩

/-- The handles of all that has a place in the inventory. -/
def entity : StructType where
  name := ⟨false, "ManagedEntity"⟩
  wireName := "ManagedEntity"
  base := some ⟨false, "ExtensibleManagedObject"⟩
  own := [
    { ident := "parent", wireName := "parent",
      shape := .option (.boxed (.named .managed ⟨false, "ManagedEntity"⟩)) },
    { ident := "name", wireName := "name", shape := .option (.primitive .string) }]

def rootFolder : Reference := ⟨"Folder", "group-d1"⟩

/-- The method by which all that has a place in the inventory is renamed. -/
def rename : Operation where
  name := "Rename"
  wireName := "Rename_Task"
  ident := "rename"
  argsIdent := "ManagedEntityRenameArgs"
  owner := "ManagedEntity"
  rooted := false
  parameters := [
    { ident := "new_name", wireName := "newName", type := .primitive .string, optional := false,
      secret := false }]
  result := .declared .managed "Task" false
  resultOptional := false

theorem registry_describes_client :
    client.Coherent registry ∧ client.KnowsHandles registry ∧ registry.KeepsKinds := by
  decide +kernel

theorem coherent_client : client.Coherent registry := registry_describes_client.1

theorem knowsHandles_client : client.KnowsHandles registry := registry_describes_client.2.1

theorem keepsKinds_registry : registry.KeepsKinds := registry_describes_client.2.2

theorem laid_out_client : StructType.Rooted client.records ∧ StructType.Rooted client.handles ∧
    (∀ t ∈ client.handles, client.HasProperties t.name ∧
      ∀ base ∈ t.base, (client.handle? base).isSome = true) ∧
    ∀ item ∈ clientModule.managedTypes, ∀ o ∈ item.operations, o.Plain := by
  decide +kernel

theorem hasProperties_of_mem_handles : ∀ t ∈ client.handles, client.HasProperties t.name :=
  fun t ht => (laid_out_client.2.2.1 t ht).1

theorem plain_of_mem_operations :
    ∀ item ∈ clientModule.managedTypes, ∀ o ∈ item.operations, o.Plain :=
  laid_out_client.2.2.2

theorem surveys_of_mem_recordSlots : ∀ t ∈ client.records, ∀ slot ∈ client.recordSlots t.name,
    client.Surveys (client.shapesWithin 12 [slot.shape]) slot := by
  decide +kernel

theorem recordSlots_of_mem_records {t : StructType} (ht : t ∈ client.records) :
    client.recordSlots t.name = t.base.elim [] client.recordSlots ++ t.own :=
  client.recordSlots_eq laid_out_client.1 (ClientModule.record?_of_mem_records ht)

theorem handleSlots_of_mem_handles {t : StructType} (ht : t ∈ client.handles) :
    client.handleSlots t.name = t.base.elim [] client.handleSlots ++ t.own :=
  client.handleSlots_eq laid_out_client.2.1 (ClientModule.handle?_of_mem_handles ht)

theorem exists_mem_handles_of_base {t : StructType} (ht : t ∈ client.handles) :
    ∀ base ∈ t.base, ∃ parent ∈ client.handles, parent.name = base := by
  intro base hbase
  obtain ⟨parent, hparent⟩ := Option.isSome_iff_exists.mp ((laid_out_client.2.2.1 t ht).2 base hbase)
  have hname : parent.name = base := by simpa using List.find?_some hparent
  exact ⟨parent, List.mem_of_find?_eq_some hparent, hname⟩

/-- A machine that runs on a host since a leap second. -/
def running : Value :=
  .record runtimeInfo.name [
    .present (client.newHandle hostName ⟨"HostSystem", "host-9"⟩),
    .enumeration powerStateName "poweredOn",
    .present (.dateTime ⟨1483228799, 1500000000⟩),
    .absent]

theorem runtimeInfo_layout : runtimeInfo ∈ client.records ∧
    client.recordSlots runtimeInfo.name = runtimeInfo.own ∧
    (client.enum? powerStateName).any (fun e => "poweredOn" ∈ e.variants.map Prod.snd) = true ∧
    (client.handle? hostName).isSome = true ∧ client.handleKey hostName = "HostSystem" := by
  decide +kernel

theorem isNullable_of_mem_handleSlots {t : StructType} (ht : t ∈ client.handles) :
    ∀ slot ∈ client.handleSlots t.name, slot.shape.isNullable = true := by
  intro slot hslot
  obtain ⟨inner, hinner⟩ :=
    Shape.exists_eq_option ((hasProperties_of_mem_handles t ht).optional slot hslot)
  rw [hinner]
  rfl

theorem holds_running : client.Holds (.named .data runtimeInfo.name) running := by
  obtain ⟨hmem, hslots, henum, hhandle, _⟩ := runtimeInfo_layout
  have hrecord := ClientModule.record?_of_mem_records hmem
  obtain ⟨t, ht⟩ := Option.isSome_iff_exists.mp hhandle
  have hname : t.name = hostName := by simpa using List.find?_some ht
  have hnullable := isNullable_of_mem_handleSlots (List.mem_of_find?_eq_some ht)
  rw [hname] at hnullable
  obtain ⟨e, he, hvariant⟩ := (Option.any_eq_true _ _).mp henum
  have hboot : Instant.Proper ⟨1483228799, 1500000000⟩ := by decide
  refine .record hrecord (by rw [hslots]; rfl) fun p hp => ?_
  rw [hslots] at hp
  simp only [runtimeInfo, List.zip_cons_cons, List.zip_nil_right, List.mem_cons, List.not_mem_nil,
    or_false] at hp
  rcases hp with rfl | rfl | rfl | rfl
  · exact .present (.boxed (Client.holds_newHandle ht hnullable _))
  · exact .enumeration he (of_decide_eq_true hvariant)
  · exact .present (.dateTime hboot)
  · exact .absent

theorem sendable_running : running.Sendable client registry := by
  obtain ⟨_, _, _, _, hkey⟩ := runtimeInfo_layout
  have hsub : registry.isSubtype "HostSystem" (client.handleKey hostName) = true := by
    rw [hkey]
    exact Registry.isSubtype_eq_true_iff.mpr .refl
  refine .record fun v hv => ?_
  simp only [List.mem_cons, List.not_mem_nil, or_false] at hv
  rcases hv with rfl | rfl | rfl | rfl
  · exact .present (.newHandle hsub) Value.noConfusion
  · exact .enumeration
  · exact .present (.dateTime (by decide)) Value.noConfusion
  · exact .absent

theorem entity_layout : entity ∈ client.handles ∧ client.handleSlots entity.name = entity.own ∧
    registry.isSubtype rootFolder.typeName entity.wireName = true ∧
    clientModule.operation? ⟨false, "VirtualMachine"⟩ "rename" = some rename ∧
    rename.resultShape = .named .managed ⟨false, "Task"⟩ := by
  decide +kernel

/-- A handle has the properties of its parent, which is a handle too, and then those that are declared for
it. It is constructed from a reference and initial values of these properties. -/
theorem constructs_of_mem_handles {t : StructType} (ht : t ∈ client.handles) (reference : Reference)
    (init : DecodedObject) :
    client.handleSlots t.name = t.base.elim [] client.handleSlots ++ t.own ∧
      (∀ base ∈ t.base, ∃ parent ∈ client.handles, parent.name = base) ∧
      (t = Client.rootHandle ∨ ∃ d ∈ managedTypes, d.LaidOut (Index.ofSchema schema) t) ∧
      client.Constructs t.name reference init := by
  refine ⟨handleSlots_of_mem_handles ht, exists_mem_handles_of_base ht, ?_, ?_⟩
  · exact ClientModule.laidOut_of_mem_handles ht
  · apply Client.constructs
    exact hasProperties_of_mem_handles t ht

/-- A folder under another name, with a field that no folder has. -/
def renamedFolder : DecodedObject :=
  ⟨"Folder", some "group-v3",
    [("name", .scalar (.string "vm")), ("overallStatus", .scalar (.string "green")), ("parent", .null)]⟩

theorem constructs_of_mem_handles_entity :
    (entity ∈ client.handles ∧
      client.handleSlots entity.name = entity.base.elim [] client.handleSlots ++ entity.own ∧
      (∀ base ∈ entity.base, ∃ parent ∈ client.handles, parent.name = base) ∧
      (entity = Client.rootHandle ∨ ∃ d ∈ managedTypes, d.LaidOut (Index.ofSchema schema) entity) ∧
      client.Constructs entity.name rootFolder renamedFolder) ∧
    ∃ rest, client.construct entity.name rootFolder (client.openObject renamedFolder) =
        (.ok (.handle entity.name rootFolder [.absent, .present (.text "vm")]), rest) ∧
      rest.close = ⟨"Folder", some "group-v3", [("overallStatus", .scalar (.string "green"))]⟩ := by
  have hentity := entity_layout
  have hconstructs := constructs_of_mem_handles hentity.1 rootFolder renamedFolder
  have hvalues : (client.construct entity.name rootFolder (client.openObject renamedFolder)).1 =
      .ok (.handle entity.name rootFolder [.absent, .present (.text "vm")]) := by
    rw [Client.construct, hentity.2.1]
    rfl
  rcases hconstruct : client.construct entity.name rootFolder (client.openObject renamedFolder)
    with ⟨outcome, rest⟩
  rw [hconstruct] at hvalues
  obtain rfl : outcome = _ := hvalues
  refine ⟨⟨hentity.1, hconstructs⟩, rest, rfl, ?_⟩
  rw [hconstructs.2.2.2.leaves _ _ hconstruct, hentity.2.1]
  rfl

/-- A machine on a host that runs a machine of which no state is known. -/
def hosted : Json.Members := [
  ("host", .object [("$value", .string "host-9"),
    ("vm", .array [.object [("$value", .string "vm-4"), ("runtime", .object [])]])]),
  ("powerState", .string "poweredOn")]

theorem missing_hosted : (decode registry runtimeInfo.wireName (.object hosted)).isOk = true ∧
    Outcome.missing? (client.reconstruct registry runtimeInfo.wireName (.object hosted)
      (.named .data runtimeInfo.name)) = some "VirtualMachineRuntimeInfo.powerState" := by
  decide +kernel

/-- Every method of every handle makes one call under its wire name, with the type that declares it and
the arguments that are given, and its outcome is that of the call. -/
theorem performs_of_operation {type : TypeName} {ident : String} {o : Operation}
    (ho : clientModule.operation? type ident = some o) {values : List Value}
    (hvalues : o.Takes client values) (reference : Reference) (s : Session) :
    ∃ d ∈ managedTypes, ∃ m ∈ d.methods, o.Binds (Index.ofSchema schema) m ∧
      d.wireName ∈ (client.handleChain type).map (·.wireName) ∧
      o.Performs client
        (if d.wireName = "ServiceInstance" then .string "ServiceInstance"
          else .object [("attributes", .object [("type", .string d.wireName)]),
            ("$value", .string reference.handle)])
        reference.handle values s := by
  obtain ⟨item, hitem, hmem, _⟩ := ClientModule.exists_mem_of_operation? ho
  have hplain := plain_of_mem_operations item hitem o hmem
  obtain ⟨d, hd, m, hm, hbinds, hchain, hperforms⟩ :=
    ClientModule.exists_performs ho hplain hvalues reference.handle s
  refine ⟨d, hd, m, hm, hbinds, hchain, ?_⟩
  have htarget : (if d.wireName = rootType then Json.string d.wireName
      else Reference.toJson ⟨d.wireName, reference.handle⟩) =
        if d.wireName = "ServiceInstance" then .string "ServiceInstance"
          else .object [("attributes", .object [("type", .string d.wireName)]),
            ("$value", .string reference.handle)] :=
    ite_congr rfl (congrArg Json.string) fun _ => rfl
  rw [htarget] at hperforms
  exact hperforms

theorem performs_of_operation_rename :
    clientModule.operation? ⟨false, "VirtualMachine"⟩ "rename" = some rename ∧
      rename.Takes client [.text "db-2"] ∧
      rename.resultShape = .named .managed ⟨false, "Task"⟩ ∧
      ∃ d ∈ managedTypes, ∃ m ∈ d.methods, rename.Binds (Index.ofSchema schema) m ∧
        d.wireName ∈ (client.handleChain ⟨false, "VirtualMachine"⟩).map (·.wireName) ∧
        rename.Performs client
          (if d.wireName = "ServiceInstance" then .string "ServiceInstance"
            else .object [("attributes", .object [("type", .string d.wireName)]),
              ("$value", .string "vm-4")])
          "vm-4" [.text "db-2"] (clientModule.connect { pending := [] }) := by
  obtain ⟨_, _, _, hrename, hshape⟩ := entity_layout
  have htakes : rename.Takes client [.text "db-2"] := .cons (.text "db-2") .nil
  exact ⟨hrename, htakes, hshape, performs_of_operation hrename htakes ⟨"VirtualMachine", "vm-4"⟩ _⟩

example : clientModule.managedTypes.map (fun d => (d.ident, d.operations.map (·.ident))) =
    [("ManagedEntity", ["destroy", "rename"]), ("ExtensibleManagedObject", []), ("Folder", []),
      ("HostSystem", []), ("VirtualMachine", ["power_on", "unregister"]), ("Task", ["cancel"]),
      ("SessionManager", ["login", "logout"]),
      ("ServiceInstance", ["current_time", "retrieve_content"])] := by
  decide +kernel

end Vmodl.Inventory
