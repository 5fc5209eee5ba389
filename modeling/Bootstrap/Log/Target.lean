/-!
The targets under which the parts of the harness log.
-/

namespace Bootstrap

namespace Log

namespace Target

def run : String := "bootcheck_api"

def stage : String := "bootcheck_core::stage"

def trials : String := "bootcheck_core::runner"

def fixpoint : String := "bootcheck_core::fixpoint"

def compiler : String := "bootcheck_core::invoker"

def processEngine : String := "bootcheck_core::process_engine"

end Target

end Log

end Bootstrap
