import ChatFlow.Flow.Issue

namespace ChatFlow

structure ActiveFlow where
  version : String
  flow : Flow
  issues : List Issue
  deriving DecidableEq

def ActiveFlow.ofFlow (version : String) (flow : Flow) : ActiveFlow := ⟨version, flow, flow.issues⟩

end ChatFlow
