import Wrk2.Worker.Loop
import Wrk2.Worker.Connection
import Wrk2.Worker.Thread
import Wrk2.Worker.Callbacks
import Wrk2.Worker.System
import Wrk2.Worker.Lemmas.Basic
import Wrk2.Worker.Lemmas.Loop
import Wrk2.Worker.Lemmas.Acts
import Wrk2.Worker.Lemmas.Frame
import Wrk2.Worker.Lemmas.Dispatch
import Wrk2.Worker.Lemmas.Wf
import Wrk2.Worker.Lemmas.Batch
import Wrk2.Worker.Lemmas.Counters
import Wrk2.Worker.Lemmas.Established
import Wrk2.Worker.Lemmas.Sample
import Wrk2.Worker.Lemmas.Owned
import Wrk2.Worker.Lemmas.Window
import Wrk2.Worker.Lemmas.Barrier
import Wrk2.Worker.Lemmas.Fds
import Wrk2.Worker.Lemmas.Stop
import Wrk2.Worker.Lemmas.Warmup
import Wrk2.Worker.Lemmas.Script
import Wrk2.Worker.Lemmas.CatchUp
import Wrk2.Worker.Lemmas.Armed
import Wrk2.Worker.Theorems
import Wrk2.Main
import Wrk2.Args
import Wrk2.Report
