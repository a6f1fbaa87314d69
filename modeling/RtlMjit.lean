import RtlMjit.Value
import RtlMjit.Fixnum
import RtlMjit.Flonum
import RtlMjit.Gen.Insn
import RtlMjit.Gen.State
import RtlMjit.Gen.Analysis
import RtlMjit.Gen.Emit
import RtlMjit.Gen.Translate
import RtlMjit.Gen.RtlGen
import RtlMjit.Gen.Relates
import RtlMjit.Gen.Semantics
import RtlMjit.Gen.Install
import RtlMjit.Gen.Counts
import RtlMjit.Gen.Grows
import RtlMjit.Exec.Runtime
import RtlMjit.Exec.Arith
import RtlMjit.Exec.Compare
import RtlMjit.Exec.Index
import RtlMjit.Exec.Not
import RtlMjit.Exec.Frame
import RtlMjit.Exec.ConstCache
import RtlMjit.Exec.Call
import RtlMjit.Gen.Simulation
import RtlMjit.Gen.Calls
import RtlMjit.Gen.Correctness
