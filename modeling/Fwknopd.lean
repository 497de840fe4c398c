import Fwknopd.Request
import Fwknopd.Authorization
import Fwknopd.Replay
import Fwknopd.Expiry
import Fwknopd.FirstMatch
import Fwknopd.CommandRun
import Fwknopd.MessageSplit
import Fwknopd.HttpTunnel
import Fwknopd.UdpServer
