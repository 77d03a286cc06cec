/-! # Functions of the query engine

The cluster operations that queries on a worker call by name. -/

namespace Muster.Worker

/-- A cluster operation that queries call. -/
inductive Function
  | version
  | nodes
  | dataSourceStatus
  | loadDataSource
  | unloadDataSource
  | registerStorage
  | unregisterStorage
  | registeredStorages
  deriving DecidableEq, Repr

namespace Function

/-- All functions, in the order in which they are offered. -/
def all : List Function :=
  [.version, .nodes, .dataSourceStatus, .loadDataSource, .unloadDataSource, .registerStorage, .unregisterStorage,
    .registeredStorages]

/-- The name that queries use. -/
def name : Function → String
  | .version => "core_cluster_version"
  | .nodes => "core_cluster_nodes"
  | .dataSourceStatus => "core_cluster_data_source_status"
  | .loadDataSource => "core_cluster_load_data_source"
  | .unloadDataSource => "core_cluster_unload_data_source"
  | .registerStorage => "core_cluster_register_storage"
  | .unregisterStorage => "core_cluster_unregister_storage"
  | .registeredStorages => "core_cluster_registered_storages"

/-- The function of a name. -/
def ofName? (name : String) : Option Function :=
  all.find? (·.name == name)

/-- The number of arguments. -/
def arity : Function → Nat
  | .version | .nodes | .registeredStorages => 0
  | _ => 1

theorem mem_all (f : Function) : f ∈ all := by cases f <;> decide

theorem ofName?_name (f : Function) : ofName? f.name = some f := by cases f <;> decide

end Function

/-- The name under which the functions are offered. -/
def sourceName : String := "core.cluster"

end Muster.Worker
