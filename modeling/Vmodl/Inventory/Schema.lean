import Vmodl.Schema.Basic

/-!
# A small inventory

The schema of a service that manages virtual machines: folders and hosts that hold them, tasks that
change them, and a session manager that lets clients in. It is the running example of this library.
-/

namespace Vmodl.Inventory

def version1 : String := "vim.version.version1"

def version5 : String := "vim.version.version5"

/-- A required property of the first version. -/
def prop (name wireType : String) : Property := { name, wireType, version := version1 }

def dataTypes : List DataDecl := [
  { qualified := "vmodl.DynamicData"
    wireName := "DynamicData"
    version := "vmodl.version.version0"
    parent := some "vmodl.DataObject" },
  { qualified := "vim.AboutInfo"
    wireName := "AboutInfo"
    version := version1
    parent := some "vmodl.DynamicData"
    fields := [
      prop "name" "string",
      prop "fullName" "string",
      prop "apiVersion" "string",
      { prop "licenseProductName" "string" with version := version5, flags := ⟨4⟩ }] },
  { qualified := "vim.ServiceInstanceContent"
    wireName := "ServiceInstanceContent"
    version := version1
    parent := some "vmodl.DynamicData"
    fields := [
      prop "rootFolder" "vim.Folder",
      prop "about" "vim.AboutInfo",
      { prop "sessionManager" "vim.SessionManager" with flags := ⟨4⟩ },
      { prop "extensionData" "vim.NotInThisSchema" with flags := ⟨4⟩ }] },
  { qualified := "vim.vm.RuntimeInfo"
    wireName := "VirtualMachineRuntimeInfo"
    version := version1
    parent := some "vmodl.DynamicData"
    fields := [
      { prop "host" "vim.HostSystem" with flags := ⟨4⟩ },
      prop "powerState" "vim.VirtualMachine.PowerState",
      { prop "bootTime" "vmodl.DateTime" with flags := ⟨4⟩ },
      { prop "maxCpuUsage" "int" with flags := ⟨4⟩ }] },
  { qualified := "vim.fault.InvalidLogin"
    wireName := "InvalidLogin"
    version := version1
    parent := some "vim.fault.VimFault" },
  { qualified := "vim.fault.VimFault"
    wireName := "VimFault"
    version := version1
    parent := some "vmodl.MethodFault" },
  { qualified := "vim.UserSession"
    wireName := "UserSession"
    version := version1
    parent := some "vmodl.DynamicData"
    fields := [
      prop "key" "string",
      prop "userName" "string",
      prop "loginTime" "vmodl.DateTime",
      prop "messageLocale" "string",
      { prop "extensionSession" "boolean" with version := version5, flags := ⟨4⟩ }] }]

def enumTypes : List EnumDecl := [
  { qualified := "vim.VirtualMachine.PowerState"
    wireName := "VirtualMachinePowerState"
    version := version1
    values := ["poweredOff", "poweredOn", "suspended"] },
  { qualified := "vim.TaskInfo.State"
    wireName := "TaskInfoState"
    version := version1
    values := ["queued", "running", "success", "error"] }]

def managedTypes : List ManagedDecl := [
  { qualified := "vim.ManagedEntity"
    wireName := "ManagedEntity"
    version := version1
    parent := some "vim.ExtensibleManagedObject"
    fields := [
      { prop "parent" "vim.ManagedEntity" with flags := ⟨4⟩ },
      prop "name" "string"]
    methods := [
      { name := "Destroy", wireName := "Destroy_Task", version := version1,
        result := { wireType := "vim.Task" },
        extra := some (.string "VirtualMachine.Inventory.Delete"),
        faults := ["vim.fault.VimFault"] },
      { name := "Rename", wireName := "Rename_Task", version := version1,
        parameters := [prop "newName" "string"],
        result := { wireType := "vim.Task" } }] },
  { qualified := "vim.ExtensibleManagedObject"
    wireName := "ExtensibleManagedObject"
    version := version1
    parent := some "vmodl.ManagedObject" },
  { qualified := "vim.Folder"
    wireName := "Folder"
    version := version1
    parent := some "vim.ManagedEntity"
    fields := [
      { prop "childEntity" "vim.ManagedEntity[]" with flags := ⟨4⟩ }] },
  { qualified := "vim.HostSystem"
    wireName := "HostSystem"
    version := version1
    parent := some "vim.ManagedEntity"
    fields := [{ prop "vm" "vim.VirtualMachine[]" with flags := ⟨4⟩ }] },
  { qualified := "vim.VirtualMachine"
    wireName := "VirtualMachine"
    version := version1
    parent := some "vim.ManagedEntity"
    fields := [prop "runtime" "vim.vm.RuntimeInfo"]
    methods := [
      { name := "PowerOn", wireName := "PowerOnVM_Task", version := version1,
        parameters := [{ prop "host" "vim.HostSystem" with flags := ⟨4⟩ }],
        result := { wireType := "vim.Task" },
        extra := some (.string "VirtualMachine.Interact.PowerOn") },
      { name := "Unregister", wireName := "UnregisterVM", version := version1,
        result := { wireType := "void" },
        extra := some (.string "VirtualMachine.Inventory.Unregister") }] },
  { qualified := "vim.Task"
    wireName := "Task"
    version := version1
    parent := some "vim.ExtensibleManagedObject"
    methods := [
      { name := "Cancel", wireName := "CancelTask", version := version1,
        result := { wireType := "void" },
        extra := some (.string "System.Read") }] },
  { qualified := "vim.SessionManager"
    wireName := "SessionManager"
    version := version1
    parent := some "vmodl.ManagedObject"
    fields := [
      { prop "currentSession" "vim.UserSession" with flags := ⟨4⟩ }]
    methods := [
      { name := "Login", wireName := "Login", version := version1,
        parameters := [
            prop "userName" "string",
            { prop "password" "string" with flags := ⟨8⟩ },
            { prop "locale" "string" with flags := ⟨4⟩ }],
        result := { wireType := "vim.UserSession" },
        extra := some (.string "System.Anonymous"),
        faults := ["vim.fault.InvalidLogin"] },
      { name := "Logout", wireName := "Logout", version := version1,
        result := { wireType := "void" },
        extra := some (.string "System.View") }] },
  { qualified := "vim.ServiceInstance"
    wireName := "ServiceInstance"
    version := version1
    parent := some "vmodl.ManagedObject"
    fields := [prop "content" "vim.ServiceInstanceContent"]
    methods := [
      { name := "CurrentTime", wireName := "CurrentTime", version := version1,
        result := { wireType := "vmodl.DateTime", spelledType := "dateTime" },
        extra := some (.string "System.View") },
      { name := "RetrieveContent", wireName := "RetrieveServiceContent", version := version1,
        result := { wireType := "vim.ServiceInstanceContent" },
        extra := some (.string "System.Anonymous") }] }]

def versions : List ApiVersion := [
  { version := version1
    wireNamespace := "vim2"
    versionId := "2.0"
    isLegacy := true
    serviceNamespace := "vim"
    flags := [("oldest", true)] },
  { version := version5
    wireNamespace := "vim25"
    versionId := "4.0"
    isLegacy := false
    serviceNamespace := "vim"
    parents := [version1]
    flags := [("newest", true)] }]

def schema : Schema where
  breakingChanges := [{ branchName := "main", vmodlNamespace := "vim" }]
  dataTypes := dataTypes
  enumTypes := enumTypes
  managedTypes := managedTypes
  versions := versions

end Vmodl.Inventory
