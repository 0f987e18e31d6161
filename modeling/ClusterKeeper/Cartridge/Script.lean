/-!
The Lua scripts that the administration calls run on an instance. A script gets the arguments of its
call as its varargs; what it returns is the call's result.
-/

namespace ClusterKeeper.Script

/-- Lines of text, each ended by a line break, after an empty first line. -/
def ofLines (ls : List String) : String := "\n" ++ String.join (ls.map (· ++ "\n"))

/-- Returns the identifier of the instance, empty until it is configured. -/
def instanceUuid : String := ofLines [
  "    if type(box.cfg) == 'function' then",
  "        return \"\"",
  "    end",
  "",
  "    return box.info().uuid"]

/-- Sets the weight of a replicaset unless it has it. -/
def setWeight : String := ofLines [
  "    local cartridge = require('cartridge')",
  "    local uuid, weight = ...",
  "",
  "    local replicaset = cartridge.admin_get_replicasets(uuid)[1]",
  "    local actual_weight = 0",
  "",
  "    if replicaset ~= nil and replicaset.weight ~= nil and replicaset.weight ~= box.NULL then",
  "        actual_weight = replicaset.weight",
  "    end",
  "",
  "    if replicaset == nil or actual_weight ~= weight then",
  "        local _, err = cartridge.admin_edit_topology(\x7b",
  "            replicasets = \x7b",
  "                \x7b uuid = uuid, weight = weight \x7d",
  "            \x7d",
  "        \x7d)",
  "        if err ~= nil then",
  "            return \x7b res = false, err = err \x7d",
  "        end",
  "    end",
  "",
  "    return \x7b res = true, err = nil \x7d"]

/-- Returns the roles of a replicaset. -/
def replicasetRoles : String := ofLines [
  "    local args = ...",
  "    local cartridge = require('cartridge')",
  "    local res = cartridge.admin_get_replicasets(args.uuid)",
  "    if res[1] ~= nil then",
  "        return res[1].roles",
  "    end",
  "    return nil"]

/-- Bootstraps the storages. -/
def bootstrapVshard : String := ofLines [
  "    local cartridge = require('cartridge')",
  "    local res, err = cartridge.admin_bootstrap_vshard()",
  "    return \x7b res = res, err = err \x7d"]

/-- Returns the dependencies of every role. -/
def rolesHierarchy : String := ofLines [
  "    local roles = require('cartridge.roles')",
  "    local hierarchy = \x7b\x7d",
  "",
  "    for _, role_name in pairs(roles.get_all_roles()) do",
  "        hierarchy[role_name] = roles.get_role_dependencies(role_name)",
  "    end",
  "",
  "    return hierarchy"]

/-- Edits the topology. -/
def editTopology : String := ofLines [
  "    local args = ...",
  "    local cartridge = require('cartridge')",
  "    local topology, err = cartridge.admin_edit_topology(args)",
  "    return \x7b res = topology ~= nil, err = err \x7d"]

/-- Sets the failover parameters. -/
def setFailoverParams : String := ofLines [
  "    local cartridge = require('cartridge')",
  "    local res, err = cartridge.failover_set_params(...)",
  "",
  "    return \x7b res = res, err = err \x7d"]

/-- Returns the failover parameters. -/
def failoverParams : String := ofLines [
  "    local cartridge = require('cartridge')",
  "    return cartridge.failover_get_params()"]

/-- Returns the sections of the clusterwide config but for the reserved ones. -/
def clusterwideConfig : String := ofLines [
  "    local cartridge = require('cartridge')",
  "    local reserved = ...",
  "    local cfg = cartridge.config_get_readonly()",
  "",
  "    local ret = \x7b\x7d",
  "    for section, data in pairs(cfg) do",
  "        if not reserved[section] then",
  "            ret[section] = data",
  "        end",
  "    end",
  "    return ret"]

/-- Patches the clusterwide config but for the reserved sections. -/
def patchConfig : String := ofLines [
  "    local cartridge = require('cartridge')",
  "    local desired, reserved = ...",
  "",
  "    local safe = \x7b\x7d",
  "    for section, data in pairs(desired) do",
  "        if not reserved[section] then",
  "            safe[section] = data",
  "        end",
  "    end",
  "",
  "    return cartridge.config_patch_clusterwide(safe)"]

/-- Tells whether Cartridge has started. -/
def isStarted : String := ofLines [
  "    local confapplier = require('cartridge.confapplier')",
  "    local state = confapplier.get_state()",
  "",
  "    if state == '' then",
  "        return \x7b res = false, err = nil \x7d",
  "    end",
  "",
  "    if state == 'InitError' or state == 'BootError' or state == 'OperationError' or state == 'ReloadError' then",
  "        return \x7b res = false, err = nil \x7d",
  "    end",
  "",
  "    return \x7b res = true, err = nil \x7d"]

/-- Tells whether the instance has applied its roles. -/
def isConfigured : String := ofLines [
  "    local confapplier = require('cartridge.confapplier')",
  "    local state = confapplier.get_state()",
  "",
  "    if state ~= 'RolesConfigured' and state ~= 'OperationError' then",
  "        return \x7b res = false, err = nil \x7d",
  "    end",
  "",
  "    return \x7b res = true, err = nil \x7d"]

end ClusterKeeper.Script
