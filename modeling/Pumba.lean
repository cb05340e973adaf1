import Pumba.Go.Strings
import Pumba.Go.Regexp
import Pumba.Go.IP
import Pumba.Go.ParseIP
import Pumba.Go.IPRoundTrip
import Pumba.Go.Duration
import Pumba.Client.Api
import Pumba.Client.ListContainers
import Pumba.Client.StopContainer
import Pumba.Client.Netem
import Pumba.Main.Targets
import Pumba.Main.Scheduler
import Pumba.Main.Commands
import Pumba.Main.Tls
