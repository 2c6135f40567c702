import QueryInk.Proofs.Run.Verdict

namespace QueryInk

namespace Request

variable {request : Request} {sources : List Source} {workers : Workers}

end Request

end QueryInk
